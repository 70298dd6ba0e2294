import UniText.Charset.Decoder
import UniText.Proofs.Converter.Chunks

/-! Walks that go on behind every error, and what the first step of a held front covers. -/

namespace UniText

namespace Decoder

/-- The next item of a walk is what the step at its place is resolved to.

A code point moves the walk on behind the step, and an error stops it where it is. -/
theorem next?_eq_some {decoder after : Decoder} {item : Except CodecError DecodedChar}
    (found : decoder.next? = some (item, after)) {step : Step}
    (taken : decoder.charset.next (decoder.source.drop decoder.position) true = step) :
    decoder.stopped = false ∧ decoder.position < decoder.source.length ∧
      ((∃ code, step.decoded.resolve decoder.policy = .ok code ∧
          item = .ok ⟨code, decoder.position, step.advance⟩ ∧
          after = { decoder with position := decoder.position + step.advance }) ∨
        ∃ fault, step.decoded.resolve decoder.policy = .error fault ∧
          item = .error ⟨fault, decoder.position, step.advance⟩ ∧
          after = { decoder with stopped := true }) := by
  -- The walk goes on only if it has not stopped and there are bytes ahead.
  subst taken
  unfold next? at found
  split at found
  · simp at found
  · next ahead =>
    simp only [Bool.or_eq_true, decide_eq_true_eq, not_or, Bool.not_eq_true, Nat.not_le] at ahead
    refine ⟨ahead.1, ahead.2, ?_⟩
    dsimp only at found
    -- Then the step is resolved, or it is reported and stops the walk.
    split at found
    · next code resolved =>
      simp only [Option.some.injEq, Prod.mk.injEq] at found
      exact .inl ⟨code, resolved, found.1.symm, found.2.symm⟩
    · next fault resolved =>
      simp only [Option.some.injEq, Prod.mk.injEq] at found
      exact .inr ⟨fault, resolved, found.1.symm, found.2.symm⟩

/-- A walk that goes on behind an error is closer to its end than before the error. -/
theorem distance_resumeAt_lt_of_next? {decoder after : Decoder} {error : CodecError}
    (found : decoder.next? = some (.error error, after)) :
    (after.resumeAt (error.offset + error.length)).distance < decoder.distance := by
  obtain ⟨walking, inside, ⟨code, -, same, -⟩ | ⟨fault, -, same, rfl⟩⟩ := next?_eq_some found rfl
  · simp at same
  · -- The ill-formed bytes are one at least.
    obtain rfl := Except.error.inj same
    have moved := Step.advance_pos
      (decoder.charset.next (decoder.source.drop decoder.position) true)
    simp only [distance, resumeAt, walking]
    omega

/-- All items that are still to come when the walk goes on behind every error. -/
def itemsResuming (decoder : Decoder) : List (Except CodecError DecodedChar) :=
  match _found : decoder.next? with
  | none => []
  | some (.ok char, after) => .ok char :: after.itemsResuming
  | some (.error error, after) =>
    -- Exactly the ill-formed bytes are left out.
    .error error :: (after.resumeAt (error.offset + error.length)).itemsResuming
termination_by decoder.distance
decreasing_by
  · exact distance_lt_of_next? _found
  · exact distance_resumeAt_lt_of_next? _found

/-- A walk is over at the end of its buffer. -/
theorem itemsResuming_of_le {decoder : Decoder}
    (ended : decoder.source.length ≤ decoder.position) : decoder.itemsResuming = [] := by
  -- At the end of the buffer there is no next item.
  have none : decoder.next? = none := by simp [next?, ended]
  rw [itemsResuming]
  split
  · rfl
  · next found => simp [none] at found
  · next found => simp [none] at found

/-- Before the end of its buffer, a walk takes one step and then goes on behind it. -/
theorem itemsResuming_of_lt {decoder : Decoder} (walking : decoder.stopped = false)
    (inside : decoder.position < decoder.source.length) {step : Step}
    (taken : decoder.charset.next (decoder.source.drop decoder.position) true = step)
    (within : decoder.position + step.advance ≤ decoder.source.length) :
    decoder.itemsResuming =
      (match step.decoded.resolve decoder.policy with
        | .ok code => .ok ⟨code, decoder.position, step.advance⟩
        | .error fault => .error ⟨fault, decoder.position, step.advance⟩)
      :: { decoder with position := decoder.position + step.advance }.itemsResuming := by
  -- A walk that is not at its end has a next item.
  have present : decoder.next? ≠ none := by
    have ahead : ¬(decoder.stopped || decoder.source.length ≤ decoder.position) = true := by
      simp [walking, inside]
    rw [next?, if_neg ahead]
    dsimp only
    split <;> simp
  rw [itemsResuming]
  split
  · next found => exact absurd found present
  · next char after found =>
    obtain ⟨-, -, ⟨code, resolved, same, rfl⟩ | ⟨fault, -, same, -⟩⟩ := next?_eq_some found taken
    · rw [resolved, Except.ok.inj same]
    · simp at same
  · next error after found =>
    obtain ⟨-, -, ⟨code, -, same, -⟩ | ⟨fault, resolved, same, rfl⟩⟩ := next?_eq_some found taken
    · simp at same
    · -- The walk is set going again at the place behind the step.
      obtain rfl := Except.error.inj same
      rw [resolved]
      simp [resumeAt, walking, Nat.min_eq_left within]

/-- An error tells how far the step at its offset goes. -/
theorem length_of_mem_itemsResuming {decoder : Decoder} {error : CodecError}
    (member : .error error ∈ decoder.itemsResuming) : error.length
      = (decoder.charset.next (decoder.source.drop error.offset) true).advance := by
  induction far : decoder.distance using Nat.strongRecOn generalizing decoder with
  | ind far ih =>
    subst far
    -- The walk goes on over the same bytes, whether or not its next item is an error.
    rw [itemsResuming] at member
    split at member
    · simp at member
    · next char after found =>
      obtain ⟨-, -, ⟨code, -, -, rfl⟩ | ⟨fault, -, same, -⟩⟩ := next?_eq_some found rfl
      · have rest := (List.mem_cons.mp member).resolve_left (by simp)
        have later := ih _ (distance_lt_of_next? found) rest rfl
        exact later
      · simp at same
    · next first after found =>
      obtain ⟨-, -, ⟨code, -, same, -⟩ | ⟨fault, -, same, rfl⟩⟩ := next?_eq_some found rfl
      · simp at same
      · rcases List.mem_cons.mp member with here | further
        · obtain rfl : error = first := by simpa using here
          obtain rfl := Except.error.inj same
          rfl
        · have later := ih _ (distance_resumeAt_lt_of_next? found) further rfl
          exact later

end Decoder
namespace Utf8

/-- Trail bytes that waited are all covered by the step that they turn out to belong to. -/
theorem le_length_trails {code used due : Nat} {range : UInt8 × UInt8} {held : List UInt8}
    (open_ : (trails false code used due range held).decoded = .incomplete) (rest : List UInt8) :
    used + held.length ≤ (trails true code used due range (held ++ rest)).length := by
  -- One byte after the other lies within its range, up to those that have come since.
  induction due generalizing code used range held with
  | zero => simp [trails] at open_
  | succ due ih =>
    cases held with
    | nil => exact (length_trails (trails_ending code used (due + 1) range rest)).1
    | cons byte held =>
      simp only [trails, List.cons_append, List.length_cons] at open_ ⊢
      split
      · next outside =>
        rw [if_pos outside] at open_
        simp at open_
      · next inRange =>
        rw [if_neg inRange] at open_
        have below := ih open_
        omega

/-- Bytes that waited are all covered by the step that they turn out to belong to. -/
theorem le_length_next {held : List UInt8} (nonempty : held ≠ [])
    (open_ : (next held false).decoded = .incomplete) (rest : List UInt8) :
    held.length ≤ (next (held ++ rest) true).length := by
  have whole : held ++ rest ≠ [] := by simp [nonempty]
  obtain ⟨-, positive, -⟩ := streams.ending (held ++ rest) whole
  obtain ⟨lead, held, rfl⟩ := List.exists_cons_of_ne_nil nonempty
  rcases next_cons lead with ⟨step, -, decided, same⟩ | overlongLead | ⟨code, due, range, -, more⟩
  · rw [same] at open_
    exact absurd open_ decided
  · -- Only the lead of an overlong pair has waited, and every step covers a byte.
    rw [overlongLead] at open_
    cases held with
    | nil => exact positive
    | cons byte held =>
      simp only [overlong] at open_
      split at open_ <;> simp at open_
  · rw [more] at open_
    rw [List.cons_append, more, List.length_cons, Nat.add_comm]
    exact le_length_trails open_ rest

end Utf8

namespace Utf16

/-- Bytes that waited are all covered by the step that they turn out to belong to, or the lead
among them is a surrogate without a partner. -/
theorem le_length_next {order : Endian} {held : List UInt8} (nonempty : held ≠ [])
    (open_ : (next order held false).decoded = .incomplete) (rest : List UInt8) :
    held.length ≤ (next order (held ++ rest) true).length ∨
      ∃ code, (next order (held ++ rest) true).decoded = .surrogate code := by
  have whole : held ++ rest ≠ [] := by simp [nonempty]
  obtain ⟨-, positive, -⟩ := (streams order).ending (held ++ rest) whole
  rcases bytes_cases nonempty with
    ⟨byte, rfl⟩ | ⟨first, second, more, rfl, short⟩ | ⟨_, _, _, _, _, rfl⟩
  · exact .inl positive
  · -- A unit that waited is a lead, and only a pair covers more than this unit.
    have lead : CodePoint.isLead (unitOf order first second).toUInt32 = true := by
      rw [next_two order first second short] at open_
      split at open_
      · next waits => simpa using waits
      · exact absurd open_ (combine_decided ..).1
    have half : CodePoint.isSurrogate (unitOf order first second).toUInt32 = true := by
      simp [CodePoint.isSurrogate_eq, lead]
    rw [List.cons_append, List.cons_append]
    by_cases still : (more ++ rest).length < 2
    · exact .inr ⟨_, by simp [next_two order first second still, combine_lead lead]; rfl⟩
    · obtain ⟨third, fourth, others, same⟩ :
          ∃ third fourth others, more ++ rest = third :: fourth :: others := by
        match more ++ rest, still with
        | third :: fourth :: others, _ => exact ⟨third, fourth, others, rfl⟩
        | [], still | [_], still => simp at still
      rw [same, next_four]
      by_cases pair : CodePoint.isTrail (unitOf order third fourth).toUInt32 = true
      · left
        simp only [combine, half, lead, pair, Bool.not_true, Bool.false_eq_true, if_false,
          Bool.and_true, if_true, List.length_cons]
        omega
      · exact .inr ⟨_, by simp [combine, half, pair]; rfl⟩
  · rw [next_four] at open_
    exact absurd open_ (combine_decided ..).1

end Utf16

/-- Bytes that waited are all covered by the step that they turn out to belong to.

Only UTF-16 has steps that cover less, over a lead without its partner. -/
theorem Charset.le_length_next {charset : Charset} {held : List UInt8} (nonempty : held ≠ [])
    (open_ : (charset.next held false).decoded = .incomplete) (rest : List UInt8) :
    held.length ≤ (charset.next (held ++ rest) true).length ∨
      (∃ order, charset = .utf16 order) ∧
        ∃ code, (charset.next (held ++ rest) true).decoded = .surrogate code := by
  have few := (charset.streams.waiting held nonempty open_).2
  cases charset with
  | utf8 => exact .inl (Utf8.le_length_next nonempty open_ rest)
  | utf16 order =>
    exact (Utf16.le_length_next nonempty open_ rest).imp id fun lone => ⟨⟨order, rfl⟩, lone⟩
  | utf32 order =>
    -- A unit that waited is whole by now, or all that there is.
    left
    simp only [next, maxLength] at few ⊢
    by_cases four : 4 ≤ (held ++ rest).length
    · have known := Utf32.next_append order four [] true
      rw [List.append_nil] at known
      rw [known.1, known.2.1]
      omega
    · rw [Utf32.next_short order (Nat.not_le.mp four)]
      simp [Step.cutOff]
  | usAscii | latin1 =>
    -- A single byte never waits.
    left
    simp only [maxLength] at few
    omega

namespace Decoder

/-- The code points and the errors of a strict walk from a place of a buffer on. -/
def eventsFrom (charset : Charset) (source : List UInt8) (position : Nat) :
    List (Except CodecError CodePoint) :=
  (itemsResuming ⟨charset, .strict, source, position, false⟩).map (Except.map DecodedChar.code)

/-- The events from an error on, if there is one: the error, and what is met behind it. -/
def eventsBehind (charset : Charset) (source : List UInt8) :
    Option CodecError → List (Except CodecError CodePoint)
  | none => []
  | some error => .error error :: eventsFrom charset source (error.offset + error.length)

/-- A step stays within the buffer, and is the next event, before those behind it. -/
theorem eventsFrom_of_lt (charset : Charset) {source : List UInt8} {position : Nat}
    (inside : position < source.length) {step : Step}
    (taken : charset.next (source.drop position) true = step) :
    position + step.advance ≤ source.length ∧ eventsFrom charset source position =
      (match step.decoded.resolve .strict with
        | .ok code => .ok code
        | .error fault => .error ⟨fault, position, step.advance⟩)
      :: eventsFrom charset source (position + step.advance) := by
  -- A step covers at least one byte, and none behind the buffer.
  have nonempty : source.drop position ≠ [] := by simp [inside]
  obtain ⟨-, positive, covers⟩ := charset.streams.ending _ nonempty
  rw [taken] at positive covers
  rw [List.length_drop, ← Step.advance_eq positive] at covers
  have within : position + step.advance ≤ source.length := by omega
  refine ⟨within, ?_⟩
  rw [eventsFrom, itemsResuming_of_lt rfl inside taken within, List.map_cons]
  simp only
  split <;> rfl

/-- Decoding goes as far as the first error, and the walk goes on behind it. -/
theorem eventsFrom_eq (charset : Charset) {source : List UInt8} {position : Nat}
    (within : position ≤ source.length) {progress : Progress CodePoint}
    (decoded : charset.decodeFrom .strict position (source.drop position) = progress) :
    eventsFrom charset source position
        = progress.output.map Except.ok ++ eventsBehind charset source progress.error ∧
      ∀ error ∈ progress.error, position ≤ error.offset ∧ 0 < error.length ∧
        error.offset + error.length ≤ source.length := by
  induction left_ : source.length - position using Nat.strongRecOn
    generalizing position progress with
  | ind left_ ih =>
    subst left_ decoded
    by_cases ended : position = source.length
    · -- At the end of the buffer nothing is left to decode.
      subst ended
      rw [List.drop_length, Charset.decodeFrom, eventsFrom, itemsResuming_of_le (Nat.le_refl _)]
      exact ⟨rfl, by simp [Progress.done]⟩
    · have inside : position < source.length := by omega
      -- Both take the same step, of which an error ends the decoding only.
      have nonempty : source.drop position ≠ [] := by simp [inside]
      obtain ⟨step, taken⟩ : ∃ step, charset.next (source.drop position) true = step := ⟨_, rfl⟩
      obtain ⟨stays, events⟩ := eventsFrom_of_lt charset inside taken
      have moved := Step.advance_pos step
      rw [Charset.decodeFrom_eq charset .strict position nonempty taken, events]
      cases resolved : step.decoded.resolve .strict with
      | error fault =>
        refine ⟨rfl, ?_⟩
        intro error same
        obtain rfl : ⟨fault, position, step.advance⟩ = error := by simpa [Progress.stop] using same
        simp only
        omega
      | ok code =>
        -- One code point is decoded, and the others follow by induction.
        obtain ⟨later, bounds⟩ := ih _ (by omega) stays rfl rfl
        rw [List.drop_drop, later]
        refine ⟨rfl, ?_⟩
        intro error member
        obtain ⟨beyond, rest⟩ := bounds error member
        exact ⟨by omega, rest⟩

/-- What decoding leaves to be done further on is what the walk still meets there. -/
theorem eventsFrom_of_before (charset : Charset) {source : List UInt8} {position further : Nat}
    (within : position ≤ source.length) (within' : further ≤ source.length)
    {output : List CodePoint}
    (decoded : charset.decodeFrom .strict position (source.drop position)
      = (charset.decodeFrom .strict further (source.drop further)).before output) :
    eventsFrom charset source position
      = output.map Except.ok ++ eventsFrom charset source further := by
  -- Both lists of events are the decoded text with the error behind it.
  rw [(eventsFrom_eq charset within decoded).1, (eventsFrom_eq charset within' rfl).1,
    Progress.output_before, Progress.error_before, List.map_append, List.append_assoc]

end Decoder

end UniText
