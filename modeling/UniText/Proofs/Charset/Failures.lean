import UniText.Proofs.Charset.Appending
import UniText.Proofs.Charset.RoundTrip

/-! Strict failures: they are met at the first offending place, and all output before it is kept. -/

namespace UniText.Charset

variable {charset : Charset}

/-- A text that is decoded strictly comes before what is decoded behind its bytes. -/
theorem decodeFrom_strict_append {offset : Nat} {front : List UInt8} {text : List CodePoint}
    (decoded : charset.decodeFrom .strict offset front = ⟨text, none⟩) (rest : List UInt8) :
    charset.decodeFrom .strict offset (front ++ rest)
      = (charset.decodeFrom .strict (offset + front.length) rest).before text := by
  -- One character after the other is taken from the front, up to the bytes behind it.
  induction text generalizing offset front with
  | nil =>
    have written : charset.encodeFrom .strict 0 [] = ⟨front, none⟩ :=
      decodeFrom_strict_iff.mp decoded
    obtain rfl : front = [] := by simpa [encodeFrom, Progress.done, eq_comm] using written
    rfl
  | cons code text ih =>
    obtain ⟨piece, more, written, rfl, later⟩ := decodeFrom_strict_cons_iff.mp decoded
    rw [List.append_assoc, decodeFrom_strict_piece written, ih later, List.length_append,
      Nat.add_assoc]
    rfl

/-- Strict decoding fails behind a front that it decodes, over bytes that begin no character. -/
theorem exists_front_of_decodeFrom {offset : Nat} {bytes : List UInt8} {text : List CodePoint}
    {error : CodecError}
    (failed : charset.decodeFrom .strict offset bytes = ⟨text, some error⟩) :
    ∃ front rest, bytes = front ++ rest ∧ rest ≠ [] ∧
      charset.decodeFrom .strict offset front = ⟨text, none⟩ ∧
      (charset.next rest true).decoded.resolve .strict = .error error.fault ∧
      error.offset = offset + front.length ∧
      error.length = (charset.next rest true).advance := by
  induction text generalizing offset bytes with
  | nil =>
    rcases charset.decodeFrom_strict_cases offset bytes with
      ⟨-, ended⟩ | ⟨nonempty, fault, unread, refused⟩ | ⟨code, piece, rest, -, -, taken⟩
    · simp [ended, Progress.done] at failed
    · -- The very first bytes are refused, so that the front before them is empty.
      obtain rfl : ⟨fault, offset, (charset.next bytes true).advance⟩ = error := by
        simpa [refused, Progress.stop] using failed
      exact ⟨[], bytes, rfl, nonempty, by rw [decodeFrom]; rfl, unread, rfl, rfl⟩
    · simp [taken, Progress.before] at failed
  | cons code text ih =>
    rcases charset.decodeFrom_strict_cases offset bytes with
      ⟨-, ended⟩ | ⟨-, fault, -, refused⟩ | ⟨first, piece, more, written, rfl, taken⟩
    · simp [ended, Progress.done] at failed
    · simp [refused, Progress.stop] at failed
    · -- The first character goes before the front that is decoded behind it.
      simp only [taken, Progress.before, List.singleton_append, Progress.mk.injEq,
        List.cons.injEq] at failed
      obtain ⟨⟨rfl, later⟩, stopped⟩ := failed
      obtain ⟨front, rest, rfl, nonempty, decoded, unread, place, size⟩ :=
        ih (by rw [← later, ← stopped])
      refine ⟨piece ++ front, rest, (List.append_assoc ..).symm, nonempty, ?_, unread, ?_, size⟩
      · exact decodeFrom_strict_cons_iff.mpr ⟨piece, front, written, rfl, decoded⟩
      · rw [place, List.length_append, Nat.add_assoc]

/-- No longer front than the one before a strict failure is decoded strictly.

Bytes that begin no character are not completed by fewer of the bytes that follow them. -/
theorem length_le_of_decode {front rest longer : List UInt8} {text other : List CodePoint}
    {fault : Fault} (decoded : charset.decode .strict front = ⟨text, none⟩)
    (unread : (charset.next rest true).decoded.resolve .strict = .error fault)
    (reaches : longer <+: front ++ rest)
    (decoded' : charset.decode .strict longer = ⟨other, none⟩) :
    longer.length ≤ front.length := by
  by_contra beyond
  -- What is there beyond the front belongs to the bytes that are refused.
  obtain ⟨more, rfl⟩ := List.prefix_of_prefix_length_le (List.prefix_append front rest) reaches
    (by omega)
  obtain ⟨others, rfl⟩ := (List.prefix_append_right_inj front).mp reaches
  rw [decode, decodeFrom_strict_append decoded] at decoded'
  rcases charset.decodeFrom_strict_cases (0 + front.length) more with
    ⟨rfl, -⟩ | ⟨-, _, -, refused⟩ | ⟨code, piece, last, written, rfl, -⟩
  · simp at beyond
  · rw [refused] at decoded'
    simp [Progress.stop, Progress.before] at decoded'
  · -- A character that begins there would be read from the refused bytes as well.
    have read : charset.next (piece ++ last ++ others) true = ⟨.scalar code, piece.length⟩ :=
      next_eq_scalar_iff.mpr ⟨piece, last ++ others, written, List.append_assoc .., rfl⟩
    rw [read] at unread
    simp [Decoded.resolve] at unread

/-- Encoding fails behind a front that it encodes, at a code point that is refused by itself. -/
theorem exists_front_of_encodeFrom {policy : ErrorPolicy} {index : Nat} {text : List CodePoint}
    {bytes : List UInt8} {error : CodecError}
    (failed : charset.encodeFrom policy index text = ⟨bytes, some error⟩) :
    ∃ front code rest, text = front ++ code :: rest ∧
      charset.encodeFrom policy index front = ⟨bytes, none⟩ ∧
      charset.encodeUnder policy code = .error error.fault ∧
      error.offset = index + front.length := by
  induction text generalizing index bytes with
  | nil => simp [encodeFrom, Progress.done] at failed
  | cons code text ih =>
    rw [encodeFrom] at failed
    cases written : charset.encodeUnder policy code with
    | error fault =>
      simp only [written, Progress.stop, Progress.mk.injEq, Option.some.injEq] at failed
      obtain ⟨rfl, rfl⟩ := failed
      exact ⟨[], code, text, rfl, rfl, written, rfl⟩
    | ok piece =>
      -- The bytes of the first code point go before those of the front behind it.
      simp only [written, Progress.before, Progress.mk.injEq] at failed
      obtain ⟨rfl, stopped⟩ := failed
      have later : charset.encodeFrom policy (index + 1) text
          = ⟨(charset.encodeFrom policy (index + 1) text).output, some error⟩ := by rw [← stopped]
      obtain ⟨front, refused, rest, rfl, encoded, unwritten, place⟩ := ih later
      refine ⟨code :: front, refused, rest, rfl, ?_, unwritten, ?_⟩
      · simp only [encodeFrom, written, encoded, Progress.before]
      · rw [place, List.length_cons]
        omega

/-- A strict conversion fails at the first offending place, with the output before it and no more.

Decoding fails behind the longest front of the bytes that can be decoded, over one byte at least
and within the bytes there are. Encoding fails at the first code point that the charset does not
hold; a buffer that the text is written to has the bytes of the code points before it added then,
and no byte of that one. -/
theorem strict_failure (charset : Charset) :
    (∀ bytes text error, charset.decode .strict bytes = ⟨text, some error⟩ →
      charset.decode .strict (bytes.take error.offset) = ⟨text, none⟩ ∧
      (∀ front other, front <+: bytes → charset.decode .strict front = ⟨other, none⟩ →
        front.length ≤ error.offset) ∧
      1 ≤ error.length ∧ error.offset + error.length ≤ bytes.length) ∧
    ∀ text bytes error, charset.encode .strict text = ⟨bytes, some error⟩ →
      (∃ code, text[error.offset]? = some code ∧ ¬charset.Holds code) ∧
      (∀ code ∈ text.take error.offset, charset.Holds code) ∧
      charset.encode .strict (text.take error.offset) = ⟨bytes, none⟩ ∧
      ∀ buffer, charset.appendText .strict text buffer = (.error error, buffer ++ bytes) := by
  constructor
  · intro bytes text error failed
    obtain ⟨front, rest, rfl, nonempty, decoded, unread, place, size⟩ :=
      exists_front_of_decodeFrom failed
    obtain ⟨-, positive, covers⟩ := charset.streams.ending rest nonempty
    rw [Nat.zero_add] at place
    rw [place, size, Step.advance_eq positive, List.take_left, List.length_append]
    refine ⟨decoded, ?_, positive, by omega⟩
    intro longer other reaches decoded'
    exact length_le_of_decode decoded unread reaches decoded'
  · intro text bytes error failed
    obtain ⟨front, code, rest, rfl, encoded, unwritten, place⟩ :=
      exists_front_of_encodeFrom failed
    rw [Nat.zero_add] at place
    rw [place, List.take_left]
    refine ⟨⟨code, by simp, ?_⟩, exists_encode_strict_iff.mp ⟨bytes, encoded⟩, encoded, ?_⟩
    · -- A code point that the charset holds would have been written.
      rw [← exists_encodeUnder_strict_iff]
      rintro ⟨piece, written⟩
      simp [unwritten] at written
    · intro buffer
      rw [appendText_eq, failed]
      rfl

/-- A character that is cut short fails behind the letter before it, and so does one without a
byte. -/
theorem strict_failure_euro :
    utf8.decode .strict [0x41, 0xE2, 0x82, 0x41] = ⟨[0x41], some ⟨.illegalSequence, 1, 2⟩⟩ ∧
    (∀ front other, front <+: [0x41, 0xE2, 0x82, 0x41] →
      utf8.decode .strict front = ⟨other, none⟩ → front.length ≤ 1) ∧
    latin1.encode .strict [0x41, 0x20AC, 0x41] = ⟨[0x41], some ⟨.unmappable, 1, 1⟩⟩ ∧
    ¬latin1.Holds 0x20AC ∧
    latin1.appendText .strict [0x41, 0x20AC, 0x41] [0x2D]
      = (.error ⟨.unmappable, 1, 1⟩, [0x2D, 0x41]) := by
  -- The lead and the first trail of the euro sign are one piece, which the letter does not complete.
  have decoding : utf8.decode .strict [0x41, 0xE2, 0x82, 0x41]
      = ⟨[0x41], some ⟨.illegalSequence, 1, 2⟩⟩ := by decide +kernel
  have encoding : latin1.encode .strict [0x41, 0x20AC, 0x41]
      = ⟨[0x41], some ⟨.unmappable, 1, 1⟩⟩ := by decide +kernel
  obtain ⟨-, longest, -⟩ := (strict_failure utf8).1 _ _ _ decoding
  obtain ⟨⟨code, found, unheld⟩, -, -, appended⟩ := (strict_failure latin1).2 _ _ _ encoding
  obtain rfl : 0x20AC = code := by simpa using found
  exact ⟨decoding, longest, encoding, unheld, appended [0x2D]⟩

end UniText.Charset
