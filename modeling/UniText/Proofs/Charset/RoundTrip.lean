import UniText.Proofs.Charset.Encoding
import UniText.Proofs.Charset.Reading
import UniText.Proofs.Converter.Chunks

/-! Strict encoding and strict decoding undo each other, so that no text has two forms. -/

namespace UniText

/-- Under the strict policy nothing but a scalar value is resolved. -/
theorem Decoded.resolve_strict_eq_ok_iff {decoded : Decoded} {code : CodePoint} :
    decoded.resolve .strict = .ok code ↔ decoded = .scalar code := by
  cases decoded <;> simp [resolve]

namespace Charset

variable {charset : Charset}

/-- What is written for a character is never empty. -/
theorem ne_nil_of_encodeUnder {code : CodePoint} {piece : List UInt8}
    (written : charset.encodeUnder .strict code = .ok piece) : piece ≠ [] := by
  rintro rfl
  -- Otherwise the character would be read from any byte without covering it.
  have read : charset.next [0] true = ⟨.scalar code, 0⟩ :=
    next_eq_scalar_iff.mpr ⟨[], [0], written, rfl, rfl⟩
  have covered := (charset.streams.ending [0] (by simp)).2.1
  rw [read] at covered
  exact absurd covered (Nat.lt_irrefl 0)

/-- What is written for a character is decoded to it, in front of whatever follows. -/
theorem decodeFrom_strict_piece {offset : Nat} {code : CodePoint} {piece : List UInt8}
    (written : charset.encodeUnder .strict code = .ok piece) (rest : List UInt8) :
    charset.decodeFrom .strict offset (piece ++ rest)
      = (charset.decodeFrom .strict (offset + piece.length) rest).before [code] := by
  -- The piece is read as its character, whatever comes behind it.
  have nonempty := ne_nil_of_encodeUnder written
  have read := next_eq_scalar_iff.mpr ⟨piece, rest, written, rfl, rfl⟩
  have moved : (⟨.scalar code, piece.length⟩ : Step).advance = piece.length :=
    Step.advance_eq (List.length_pos_iff.mpr nonempty)
  rw [charset.decodeFrom_eq .strict offset (by simp [nonempty]) read, moved]
  simp [Decoded.resolve]

/-- Strict decoding is at its end, or is refused, or goes on behind the bytes of a character. -/
theorem decodeFrom_strict_cases (charset : Charset) (offset : Nat) (bytes : List UInt8) :
    (bytes = [] ∧ charset.decodeFrom .strict offset bytes = .done) ∨
    (bytes ≠ [] ∧ ∃ fault, (charset.next bytes true).decoded.resolve .strict = .error fault ∧
      charset.decodeFrom .strict offset bytes
        = .stop ⟨fault, offset, (charset.next bytes true).advance⟩) ∨
    (∃ code piece rest, charset.encodeUnder .strict code = .ok piece ∧ bytes = piece ++ rest ∧
      charset.decodeFrom .strict offset bytes
        = (charset.decodeFrom .strict (offset + piece.length) rest).before [code]) := by
  by_cases nonempty : bytes = []
  · subst nonempty
    exact .inl ⟨rfl, by rw [decodeFrom]⟩
  · cases resolved : (charset.next bytes true).decoded.resolve .strict with
    | error fault =>
      refine .inr (.inl ⟨nonempty, fault, rfl, ?_⟩)
      rw [charset.decodeFrom_eq .strict offset nonempty rfl, resolved]
    | ok code =>
      -- Only a scalar value is resolved, and it is read from what is written for it.
      have read : charset.next bytes true = ⟨.scalar code, (charset.next bytes true).length⟩ := by
        rw [← Decoded.resolve_strict_eq_ok_iff.mp resolved]
      obtain ⟨piece, rest, written, rfl, -⟩ := next_eq_scalar_iff.mp read
      exact .inr (.inr ⟨code, piece, rest, written, rfl, decodeFrom_strict_piece written rest⟩)

/-- The first character of a text is decoded from what is written for it. -/
theorem decodeFrom_strict_cons_iff {offset : Nat} {bytes : List UInt8} {code : CodePoint}
    {text : List CodePoint} :
    charset.decodeFrom .strict offset bytes = ⟨code :: text, none⟩ ↔
      ∃ piece rest, charset.encodeUnder .strict code = .ok piece ∧ bytes = piece ++ rest ∧
        charset.decodeFrom .strict (offset + piece.length) rest = ⟨text, none⟩ := by
  constructor
  · intro decoded
    rcases charset.decodeFrom_strict_cases offset bytes with
      ⟨-, ended⟩ | ⟨-, fault, -, refused⟩ | ⟨first, piece, rest, written, rfl, taken⟩
    · simp [ended, Progress.done] at decoded
    · simp [refused, Progress.stop] at decoded
    · -- The character that is taken is the first one of the text.
      simp only [taken, Progress.before, List.singleton_append, Progress.mk.injEq,
        List.cons.injEq] at decoded
      obtain ⟨⟨rfl, same⟩, unfailing⟩ := decoded
      exact ⟨piece, rest, written, rfl, by rw [← same, ← unfailing]⟩
  · rintro ⟨piece, rest, written, rfl, decoded⟩
    rw [decodeFrom_strict_piece written, decoded]
    rfl

/-- A text is decoded strictly from just the bytes that it is strictly encoded to. -/
theorem decodeFrom_strict_iff {offset index : Nat} {bytes : List UInt8} {text : List CodePoint} :
    charset.decodeFrom .strict offset bytes = ⟨text, none⟩ ↔
      charset.encodeFrom .strict index text = ⟨bytes, none⟩ := by
  -- Neither the offset nor the index matters where there is no error to tell of.
  induction text generalizing offset index bytes with
  | nil =>
    cases bytes with
    | nil => simp [decodeFrom, encodeFrom, Progress.done]
    | cons byte bytes =>
      -- The front byte gives a code point or an error.
      rw [decodeFrom]
      split <;> simp [encodeFrom, Progress.done, Progress.stop, Progress.before]
  | cons code text ih =>
    rw [decodeFrom_strict_cons_iff, encodeFrom]
    constructor
    · rintro ⟨piece, rest, written, rfl, decoded⟩
      simp only [written, ih.mp decoded, Progress.before]
    · intro encoded
      cases written : charset.encodeUnder .strict code with
      | error fault => simp [written, Progress.stop] at encoded
      | ok piece =>
        simp only [written, Progress.before, Progress.mk.injEq] at encoded
        obtain ⟨rfl, unfailing⟩ := encoded
        refine ⟨piece, (charset.encodeFrom .strict (index + 1) text).output, rfl, rfl, ?_⟩
        exact ih.mpr (by rw [← unfailing])

/-- A text is strictly encoded exactly if the charset holds each of its code points. -/
theorem exists_encode_strict_iff {text : List CodePoint} :
    (∃ bytes, charset.encode .strict text = ⟨bytes, none⟩) ↔
      ∀ code ∈ text, charset.Holds code := by
  -- A text is encoded if each of its code points is.
  simp only [encode, exists_encodeFrom_iff, exists_encodeUnder_strict_iff]

/-- Strict encoding and strict decoding are inverse to each other.

The texts that can be encoded are those over the repertoire of the charset, and the bytes that can
be decoded are the encodings of such texts, of which no two are of the same text. -/
theorem strict_inverse (charset : Charset) :
    (∀ text, (∃ bytes, charset.encode .strict text = ⟨bytes, none⟩) ↔
      ∀ code ∈ text, charset.Holds code) ∧
    (∀ text bytes, charset.encode .strict text = ⟨bytes, none⟩ ↔
      charset.decode .strict bytes = ⟨text, none⟩) ∧
    (∀ bytes text, charset.decode .strict bytes = ⟨text, none⟩ →
      ∀ code ∈ text, charset.Holds code) ∧
    ∀ text first second, charset.decode .strict first = ⟨text, none⟩ →
      charset.decode .strict second = ⟨text, none⟩ → first = second := by
  have inverse (text : List CodePoint) (bytes : List UInt8) :
      charset.encode .strict text = ⟨bytes, none⟩ ↔
        charset.decode .strict bytes = ⟨text, none⟩ := decodeFrom_strict_iff.symm
  refine ⟨fun text => exists_encode_strict_iff, inverse, ?_, ?_⟩
  · intro bytes text decoded
    exact exists_encode_strict_iff.mp ⟨bytes, (inverse text bytes).mpr decoded⟩
  · intro text first second one other
    -- Both are the bytes that the text is encoded to.
    have same := ((inverse text first).mpr one).symm.trans ((inverse text second).mpr other)
    exact (Progress.mk.inj same).1

/-- A character beyond the first plane has one form in UTF-8, and one in UTF-16. -/
theorem strict_inverse_face : utf8.decode .strict [0xF0, 0x9F, 0x98, 0x80] = ⟨[0x1F600], none⟩ ∧
    ∀ bytes, (utf16 .little).decode .strict bytes = ⟨[0x1F600], none⟩ →
      bytes = [0x3D, 0xD8, 0x00, 0xDE] := by
  -- The face takes four bytes in UTF-8, and a pair of surrogates in UTF-16.
  refine ⟨((strict_inverse utf8).2.1 _ _).mp (by decide), fun bytes decoded => ?_⟩
  have units : (utf16 .little).decode .strict [0x3D, 0xD8, 0x00, 0xDE] = ⟨[0x1F600], none⟩ :=
    ((strict_inverse (utf16 .little)).2.1 _ _).mp (by decide)
  exact (strict_inverse (utf16 .little)).2.2.2 _ _ _ decoded units

end Charset

end UniText
