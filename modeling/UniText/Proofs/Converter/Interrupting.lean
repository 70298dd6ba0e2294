import UniText.Converter.Fixed
import UniText.Proofs.Charset.Lenient
import UniText.Proofs.Converter.Chunks

/-! A whole buffer that is decoded in the middle of a stream, and what the stream loses by it. -/

namespace UniText

/-- The same error, met further on in a stream. -/
def CodecError.shift (distance : Nat) (error : CodecError) : CodecError :=
  { error with offset := error.offset + distance }

/-- The same progress, made further on in a stream. -/
def Progress.shift {α : Type} (distance : Nat) (progress : Progress α) : Progress α :=
  { progress with error := progress.error.map (CodecError.shift distance) }

/-- Progress without an error is the same everywhere in a stream. -/
theorem Progress.shift_of_error {α : Type} (distance : Nat) {progress : Progress α}
    (passed : progress.error = none) : progress.shift distance = progress := by
  -- Only an error has an offset to be moved.
  obtain ⟨output, error⟩ := progress
  obtain rfl : error = none := passed
  rfl

/-- Fewer bytes are left behind a step. -/
theorem Step.length_drop_advance_lt (step : Step) {bytes : List UInt8} (nonempty : bytes ≠ []) :
    (bytes.drop step.advance).length < bytes.length := by
  -- A step moves on by one byte at least.
  have moved := step.advance_pos
  have some_ := List.length_pos_iff.mpr nonempty
  rw [List.length_drop]
  omega

namespace Converter

/-- The same converter, further on in a stream. -/
def shift (distance : Nat) (converter : Converter) : Converter :=
  { converter with position := converter.position + distance }

@[simp] theorem policy_shift (distance : Nat) (converter : Converter) :
    (converter.shift distance).policy = converter.policy := rfl

/-- A step moves a converter by as much wherever it is. -/
theorem move_shift (distance : Nat) (converter : Converter) (step : Step) (held : List UInt8) :
    (converter.shift distance).move step held = (converter.move step held).shift distance := by
  simp [move, shift, Nat.add_right_comm]

/-- What a call gives, with the converter after it, further on in a stream. -/
def shiftOutcome (distance : Nat) (outcome : Progress CodePoint × Converter) :
    Progress CodePoint × Converter :=
  (outcome.1.shift distance, outcome.2.shift distance)

/-- A code point that comes before does not depend on the place. -/
theorem shiftOutcome_before (distance : Nat) (code : CodePoint)
    (outcome : Progress CodePoint × Converter) :
    shiftOutcome distance (outcome.1.before [code], outcome.2)
      = ((shiftOutcome distance outcome).1.before [code], (shiftOutcome distance outcome).2) := rfl

/-- An error is met, and stopped at, as much further on. -/
theorem shiftOutcome_stop (distance : Nat) (converter : Converter) (step : Step) (fault : Fault) :
    shiftOutcome distance (.stop (converter.errorAt step fault), converter.move step [])
      = (.stop ((converter.shift distance).errorAt step fault),
          (converter.shift distance).move step []) := by
  -- The error is at the position of the converter, which is moved with it.
  rw [move_shift]
  rfl

/-- A chunk is decoded in the same way everywhere in a stream. -/
theorem decodeChunk_shift (flush : Bool) (distance : Nat) (converter : Converter)
    (bytes : List UInt8) : decodeChunk flush (converter.shift distance) bytes
      = shiftOutcome distance (decodeChunk flush converter bytes) := by
  -- Every step leaves fewer bytes behind it.
  induction size : bytes.length using Nat.strongRecOn generalizing converter bytes with
  | _ size ih =>
    subst size
    by_cases nonempty : bytes = []
    · subst nonempty
      rw [decodeChunk, decodeChunk]
      rfl
    · obtain ⟨step, taken⟩ : ∃ step, converter.charset.next bytes flush = step := ⟨_, rfl⟩
      have fewer := step.length_drop_advance_lt nonempty
      -- The step is the same one, since it does not depend on the place.
      rw [decodeChunk_eq flush (converter.shift distance) nonempty taken,
        decodeChunk_eq flush converter nonempty taken, policy_shift]
      by_cases waits : step.decoded = .incomplete
      · -- Bytes that wait for more are held, and no place is told.
        rw [if_pos waits, if_pos waits]
        rfl
      · rw [if_neg waits, if_neg waits]
        cases step.decoded.resolve converter.policy with
        | error fault => exact (shiftOutcome_stop ..).symm
        | ok code =>
          simp only [move_shift, ih _ fewer (converter.move step []) _ rfl]
          exact (shiftOutcome_before ..).symm

/-- Held bytes are decoded in the same way everywhere in a stream. -/
theorem decodeHeld_shift (flush : Bool) (distance : Nat) (converter : Converter)
    (chunk held : List UInt8) : decodeHeld flush (converter.shift distance) chunk held
      = shiftOutcome distance (decodeHeld flush converter chunk held) := by
  -- Every step leaves fewer held bytes behind it, until the chunk is left alone.
  induction size : held.length using Nat.strongRecOn generalizing converter held with
  | _ size ih =>
    subst size
    by_cases nonempty : held = []
    · -- With nothing held, the chunk is decoded alone.
      subst nonempty
      rw [decodeHeld, decodeHeld]
      exact decodeChunk_shift flush distance { converter with pending := [] } chunk
    · obtain ⟨step, taken⟩ : ∃ step, converter.charset.next
          (held ++ chunk.take converter.charset.maxLength)
          (flush && chunk.length ≤ converter.charset.maxLength) = step := ⟨_, rfl⟩
      rw [decodeHeld_eq flush (converter.shift distance) chunk nonempty rfl taken,
        decodeHeld_eq flush converter chunk nonempty rfl taken, policy_shift]
      by_cases waits : step.decoded = .incomplete
      · rw [if_pos waits, if_pos waits]
        rfl
      · rw [if_neg waits, if_neg waits]
        cases step.decoded.resolve converter.policy with
        | error fault => exact (shiftOutcome_stop ..).symm
        | ok code =>
          by_cases used : held.length ≤ step.advance
          · -- The step uses up what is held, and goes on in the chunk.
            simp only [if_pos used, move_shift, decodeChunk_shift]
            exact (shiftOutcome_before ..).symm
          · -- The step ends among the held bytes, and the next one begins there.
            have fewer := step.length_drop_advance_lt nonempty
            simp only [if_neg used, move_shift, ih _ fewer (converter.move step []) _ rfl]
            exact (shiftOutcome_before ..).symm

/-- A call gives the same everywhere in a stream, but for the places of errors. -/
theorem decode_shift (distance : Nat) (converter : Converter) (chunk : List UInt8)
    (flush : Bool) : (converter.shift distance).decode chunk flush
      = shiftOutcome distance (converter.decode chunk flush) :=
  -- A chunk is decoded together with what is held.
  decodeHeld_shift flush distance converter chunk converter.pending

/-- What a converter answers to calls that feed it chunks one after the other, each of them given
with whether it ends the stream. -/
def replies (converter : Converter) : List (List UInt8 × Bool) → List (Progress CodePoint)
  | [] => []
  | (chunk, flush) :: calls =>
    let (reply, after) := converter.decode chunk flush
    reply :: after.replies calls

/-- All calls give the same everywhere in a stream, but for the places of errors. -/
theorem replies_shift (distance : Nat) (converter : Converter)
    (calls : List (List UInt8 × Bool)) : (converter.shift distance).replies calls
      = (converter.replies calls).map (Progress.shift distance) := by
  -- Every call leaves the converter moved by the same distance.
  induction calls generalizing converter with
  | nil => rfl
  | cons call calls ih =>
    obtain ⟨chunk, flush⟩ := call
    simp only [replies, decode_shift, List.map_cons]
    exact congrArg _ (ih _)

/-- A converter that meets no errors: a lenient one, or one of a charset without ill-formed bytes. -/
def Forgives (converter : Converter) : Prop :=
  converter.policy ≠ .strict ∨ converter.charset = .latin1

/-- Every byte of the charset without ill-formed bytes is decoded to itself. -/
theorem error_decodeFrom_latin1 (policy : ErrorPolicy) (offset : Nat) (bytes : List UInt8) :
    (Charset.latin1.decodeFrom policy offset bytes).error = none := by
  -- Every byte is a character of Latin-1.
  induction bytes generalizing offset with
  | nil =>
    rw [Charset.decodeFrom]
    rfl
  | cons byte rest ih =>
    have small : byte.toNat ≤ 0xFF := Nat.le_of_lt_succ byte.toNat_lt
    have taken : Charset.latin1.next (byte :: rest) true = ⟨.scalar byte.toUInt32, 1⟩ :=
      if_pos small
    rw [Charset.decodeFrom_eq _ _ _ (List.cons_ne_nil byte rest) taken]
    exact ih _

/-- A converter that meets no errors answers none, and goes on meeting none. -/
theorem Forgives.decode {converter : Converter} (forgives : converter.Forgives)
    (chunk : List UInt8) (flush : Bool) :
    (converter.decode chunk flush).1.error = none ∧
      (converter.decode chunk flush).2.Forgives := by
  have reads := reads_decode converter chunk flush
  generalize converter.decode chunk flush = outcome at reads
  cases reads with
  | failed whole =>
    -- The error would be one of decoding all the bytes in one piece.
    exfalso
    have failed := congrArg Progress.error (whole [] fun _ => rfl)
    rcases forgives with lenient | single
    · obtain ⟨text, decoded, -⟩ := converter.charset.exists_decodeFrom lenient
        converter.position (converter.pending ++ chunk ++ [])
      rw [decoded] at failed
      simp at failed
    · rw [single, error_decodeFrom_latin1] at failed
      simp at failed
  | passed within waits ended whole => exact ⟨rfl, forgives⟩

/-- A converter that meets no errors gives the same everywhere in a stream. -/
theorem Forgives.replies_shift {converter : Converter} (forgives : converter.Forgives)
    (distance : Nat) (calls : List (List UInt8 × Bool)) :
    (converter.shift distance).replies calls = converter.replies calls := by
  -- A reply without an error does not tell where the converter stands.
  induction calls generalizing converter with
  | nil => rfl
  | cons call calls ih =>
    obtain ⟨chunk, flush⟩ := call
    obtain ⟨passed, after⟩ := forgives.decode chunk flush
    simp only [replies, decode_shift, shiftOutcome, Progress.shift_of_error distance passed]
    exact congrArg _ (ih after)

/-- Bytes that are held are not lost from sight: to end the stream tells that they are there. -/
theorem pending_of_decode_end {converter : Converter}
    (silent : (converter.decode [] true).1 = .done) : converter.pending = [] := by
  have whole := (reads_decode converter [] true).eq_decodeFrom
  rw [silent, List.append_nil] at whole
  by_contra held
  -- The first step over the held bytes gives a code point or an error.
  rw [Charset.decodeFrom_eq _ _ _ held rfl] at whole
  split at whole <;> simp [Progress.done, Progress.stop, Progress.before] at whole

/-- One byte is enough for an error, unless every byte is a character. -/
theorem exists_error_of_byte {charset : Charset} (other : charset ≠ .latin1) :
    ∃ fault, ∀ offset, charset.decodeFrom .strict offset [0xFF] = .stop ⟨fault, offset, 1⟩ := by
  -- FF is no character by itself, and for the longer units it is cut off.
  have refused : ∃ fault, (charset.next [0xFF] true).decoded.resolve .strict = .error fault ∧
      (charset.next [0xFF] true).advance = 1 := by
    cases charset with
    | utf8 | usAscii => exact ⟨.illegalSequence, by decide⟩
    | utf16 order | utf32 order => exact ⟨.truncatedInput, rfl, rfl⟩
    | latin1 => exact absurd rfl other
  obtain ⟨fault, refused, one⟩ := refused
  refine ⟨fault, fun offset => ?_⟩
  rw [Charset.decodeFrom_eq _ _ _ (List.cons_ne_nil 0xFF []) rfl, refused, one]

/-- With nothing held, a converter differs from one at the start of a stream in its place only. -/
theorem eq_shift_reset {converter : Converter} (empty : converter.pending = []) :
    converter = converter.reset.shift converter.position := by
  -- Without anything pending, the position is all that a reset would lose.
  obtain ⟨charset, policy, pending, position⟩ := converter
  obtain rfl : pending = [] := empty
  simp [reset, new, shift]

/-- A converter at the start of a stream and one in the middle of another give the same to all
calls exactly if nothing is held in the middle, and no error can tell where that is. -/
theorem replies_reset_iff (converter : Converter) :
    (∀ calls, converter.reset.replies calls = converter.replies calls) ↔
      converter.pending = [] ∧ (converter.position = 0 ∨ converter.Forgives) := by
  constructor
  · intro same
    -- To end the stream shows what is held.
    have ends := same [([], true)]
    have fresh : (converter.reset.decode [] true).1 = .done := by
      simp [decode, reset, new, decodeHeld, decodeChunk]
    simp only [replies, fresh, List.cons.injEq, and_true] at ends
    have empty := pending_of_decode_end ends.symm
    refine ⟨empty, ?_⟩
    by_contra! marked
    obtain ⟨moved, unforgiving⟩ := marked
    simp only [Forgives, not_or, not_not] at unforgiving
    obtain ⟨strict, other⟩ := unforgiving
    -- A byte that is an error shows the place.
    obtain ⟨fault, refused⟩ := exists_error_of_byte other
    have shown := same [([0xFF], true)]
    have here := (reads_decode converter [0xFF] true).eq_decodeFrom
    have there := (reads_decode converter.reset [0xFF] true).eq_decodeFrom
    rw [empty, strict, List.nil_append, refused] at here
    have begins : (converter.reset.decode [0xFF] true).1 = .stop ⟨fault, 0, 1⟩ := by
      rw [there]
      simp only [reset, new, strict, List.nil_append]
      exact refused 0
    simp only [replies, here, begins, Progress.stop, List.cons.injEq, Progress.mk.injEq,
      Option.some.injEq, CodecError.mk.injEq, and_true, true_and] at shown
    exact moved shown.symm
  · rintro ⟨empty, place⟩ calls
    have behind := eq_shift_reset empty
    rcases place with start | forgives
    · rw [start] at behind
      exact congrArg (replies · calls) behind.symm
    · have fresh : converter.reset.Forgives := forgives
      rw [← fresh.replies_shift converter.position calls, ← behind]

/-- A length argument is refused for its own reason only. -/
theorem selectedLength_ne_bufferTooSmall {charset : Charset} {bytes : List UInt8} {length : Int}
    {fault : Fault} (refused : charset.selectedLength bytes length = .error fault) :
    fault = .illegalArgument := by
  -- A length is refused if it is negative or too great, and for no other reason.
  unfold Charset.selectedLength resolveLength at refused
  split at refused
  · simp at refused
  · split at refused
    · simp at refused
    · exact (Except.error.inj refused).symm

/-- A destination that is too small leaves the converter at the start of a stream. -/
theorem decodeInto_of_short {converter : Converter} {dest : List UInt16} {bytes : List UInt8}
    {length : Int}
    (short : (converter.decodeInto dest bytes length).1.status = .ofFault .bufferTooSmall) :
    (converter.decodeInto dest bytes length).2 = converter.reset := by
  unfold decodeInto at short ⊢
  split
  · next fault refused =>
    -- A refused length argument is told as such.
    rw [refused] at short
    obtain rfl := selectedLength_ne_bufferTooSmall refused
    have told : Status.ofFault .illegalArgument = .ofFault .bufferTooSmall := short
    exact absurd told (by decide)
  · rfl

/-- A call that finds its destination too small ends the stream that the converter was in.

Its bytes held and its place are what they were exactly if no stream had begun. Calls that follow
answer the same as without it exactly if no bytes were held, and the place is one that no error can
tell; with no bytes held, they differ in the places of errors only. -/
theorem decodeInto_short (converter : Converter) (dest : List UInt16) (bytes : List UInt8)
    (length : Int)
    (short : (converter.decodeInto dest bytes length).1.status = .ofFault .bufferTooSmall) :
    let after := (converter.decodeInto dest bytes length).2
    after = new converter.charset converter.policy ∧
      (after = converter ↔ converter.pending = [] ∧ converter.position = 0) ∧
      ((∀ calls, after.replies calls = converter.replies calls) ↔
        converter.pending = [] ∧ (converter.position = 0 ∨ converter.policy ≠ .strict ∨
          converter.charset = .latin1)) ∧
      (converter.pending = [] → ∀ calls, converter.replies calls
        = (after.replies calls).map (Progress.shift converter.position)) := by
  -- The call has put the converter back to the start of a stream.
  intro after
  have restarted : after = converter.reset := decodeInto_of_short short
  rw [restarted]
  refine ⟨rfl, ?_, converter.replies_reset_iff, ?_⟩
  · obtain ⟨charset, policy, pending, position⟩ := converter
    simp [reset, new, eq_comm]
  -- What the start of a stream lacks is then the position alone.
  · intro empty calls
    rw [← replies_shift, ← eq_shift_reset empty]

/-- A whole buffer is asked for while the lead of a sign waits for its trail bytes. -/
theorem decodeInto_short_euro :
    let waiting : Converter := ⟨.utf8, .substitute, [0xE2], 1⟩
    let after := (waiting.decodeInto [] [0x62] 1).2
    (waiting.decodeInto [] [0x62] 1).1.status = .ofFault .bufferTooSmall ∧
      after = new .utf8 .substitute ∧
      ¬∀ calls, after.replies calls = waiting.replies calls := by
  intro waiting after
  have short : (waiting.decodeInto [] [0x62] 1).1.status = .ofFault .bufferTooSmall := by
    decide +kernel
  obtain ⟨restarted, -, same, -⟩ := decodeInto_short waiting [] [0x62] 1 short
  refine ⟨short, restarted, fun alike => ?_⟩
  -- A byte is held, so that some call tells the difference.
  have held := (same.mp alike).1
  simp [waiting] at held

/-- A stream is not always what it was after a destination has been found too small: the lead that
it held is gone, so that its trail bytes are replaced one by one. -/
theorem decodeInto_short_forgets :
    let waiting := ((new .utf8 .substitute).decode [0x61, 0xE2] false).2
    let call := waiting.decodeInto [] [0x62] 1
    call.1.status = .ofFault .bufferTooSmall ∧
      waiting.pending = [0xE2] ∧ waiting.position = 1 ∧
      call.2.pending = [] ∧ call.2.position = 0 ∧
      (waiting.decode [0x82, 0xAC] true).1 = ⟨[0x20AC], none⟩ ∧
      (call.2.decode [0x82, 0xAC] true).1 = ⟨[0xFFFD, 0xFFFD], none⟩ := by
  -- The lead that was pending is gone, so that its trails stand alone.
  decide +kernel

end Converter

end UniText
