import UniText.Charset.Codec

/-! Lazy decoding: one code point at a time, from any place of a buffer. -/

namespace UniText

/-- A decoded code point, and the bytes that it came from. -/
structure DecodedChar where
  /-- The code point. -/
  code : CodePoint
  /-- The index of its first byte. -/
  offset : Nat
  /-- The number of its bytes. -/
  length : Nat
  deriving DecidableEq, Repr

/-- A walk over the characters of a buffer. -/
structure Decoder where
  /-- The charset of the buffer. -/
  charset : Charset
  /-- What to do about ill-formed bytes. -/
  policy : ErrorPolicy
  /-- The whole buffer. -/
  source : List UInt8
  /-- The index of the next byte to read. -/
  position : Nat
  /-- The walk has met an error and goes no further by itself. -/
  stopped : Bool
  deriving DecidableEq, Repr

namespace Decoder

/-- A walk that begins at the start of a buffer. -/
def start (charset : Charset) (policy : ErrorPolicy) (source : List UInt8) : Decoder :=
  ⟨charset, policy, source, 0, false⟩

/-- The walk that goes on at another place, at most the end of the buffer. -/
def resumeAt (decoder : Decoder) (offset : Nat) : Decoder :=
  { decoder with position := min offset decoder.source.length, stopped := false }

/-- The next item with the walk after it, or nothing when the walk is over. -/
def next? (decoder : Decoder) : Option (Except CodecError DecodedChar × Decoder) :=
  if decoder.stopped || decoder.source.length ≤ decoder.position then none
  else
    let step := decoder.charset.next (decoder.source.drop decoder.position) true
    -- An error stops the walk just before the bytes that caused it.
    match step.decoded.resolve decoder.policy with
    | .ok code =>
      some (.ok ⟨code, decoder.position, step.advance⟩,
        { decoder with position := decoder.position + step.advance })
    | .error fault =>
      some (.error ⟨fault, decoder.position, step.advance⟩, { decoder with stopped := true })

/-- How far a walk is from its end: two for each byte ahead, and one unless it has stopped. -/
def distance (decoder : Decoder) : Nat :=
  -- An error only stops the walk, while a code point also moves it on.
  2 * (decoder.source.length - decoder.position) + (!decoder.stopped).toNat

/-- Each item brings the walk closer to its end. -/
theorem distance_lt_of_next? {decoder after : Decoder} {item : Except CodecError DecodedChar}
    (found : decoder.next? = some (item, after)) : after.distance < decoder.distance := by
  unfold next? at found
  split at found
  · simp at found
  · next ahead =>
    simp only [Bool.or_eq_true, decide_eq_true_eq, not_or, Bool.not_eq_true, Nat.not_le] at ahead
    obtain ⟨walking, inside⟩ := ahead
    dsimp only at found
    split at found
    · -- A code point uses up at least one byte.
      simp only [Option.some.injEq, Prod.mk.injEq] at found
      obtain ⟨-, rfl⟩ := found
      have moved := Step.advance_pos
        (decoder.charset.next (decoder.source.drop decoder.position) true)
      simp only [distance, walking]
      omega
    · -- An error stops a walk that had not stopped before.
      simp only [Option.some.injEq, Prod.mk.injEq] at found
      obtain ⟨-, rfl⟩ := found
      simp only [distance, walking, Bool.not_true, Bool.not_false, Bool.toNat_false,
        Bool.toNat_true]
      omega

/-- All items that are still to come, with the walk after them. -/
def drain (decoder : Decoder) : List (Except CodecError DecodedChar) × Decoder :=
  match _found : decoder.next? with
  | none => ([], decoder)
  | some (item, after) =>
    let (items, final) := after.drain
    (item :: items, final)
termination_by decoder.distance
decreasing_by exact distance_lt_of_next? _found

/-- All items that are still to come. -/
def items (decoder : Decoder) : List (Except CodecError DecodedChar) := decoder.drain.1

/-- Bounds on the number of items still to come: characters of full length, and single bytes. -/
def sizeHint (decoder : Decoder) : Nat × Nat :=
  let remaining := decoder.source.length - decoder.position
  let longest := decoder.charset.maxLength
  -- The lower bound is the quotient rounded up.
  ((remaining + longest - 1) / longest, remaining)

end Decoder

end UniText
