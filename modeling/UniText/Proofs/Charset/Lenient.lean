import UniText.Proofs.Charset.Validity

/-! Lenient conversion: it never fails, writes nothing ill-formed, and extends the strict one. -/

namespace UniText

/-- A lenient policy has a code point for whatever was decoded. -/
theorem Decoded.exists_resolve {policy : ErrorPolicy} (lenient : policy ≠ .strict)
    (decoded : Decoded) : ∃ code, decoded.resolve policy = .ok code := by
  -- What is no character is replaced, apart from surrogates that are kept.
  cases policy with
  | strict => exact absurd rfl lenient
  | substitute => cases decoded <;> exact ⟨_, rfl⟩
  | preserve => cases decoded <;> exact ⟨_, rfl⟩

/-- Substitution puts nothing but scalar values in the place of what was decoded. -/
theorem Decoded.isScalar_of_resolve {decoded : Decoded} {code : CodePoint}
    (scalar : ∀ other, decoded = .scalar other → other.isScalar = true)
    (resolved : decoded.resolve .substitute = .ok code) : code.isScalar = true := by
  cases decoded with
  | scalar other =>
    simp only [resolve, Except.ok.injEq] at resolved
    exact resolved ▸ scalar other rfl
  | surrogate other | illegal | truncated | incomplete =>
    -- Everything else gives way to the replacement character.
    simp only [resolve, reduceCtorEq, if_false, Except.ok.injEq] at resolved
    exact resolved ▸ by decide

namespace Charset

variable {charset : Charset} {policy : ErrorPolicy}

/-- Lenient decoding covers all bytes, with a byte at least for each code point. -/
theorem exists_decodeFrom (lenient : policy ≠ .strict) (offset : Nat) (bytes : List UInt8) :
    ∃ text, charset.decodeFrom policy offset bytes = ⟨text, none⟩ ∧
      text.length ≤ bytes.length := by
  fun_induction decodeFrom charset policy offset bytes with
  | case1 => exact ⟨[], rfl, Nat.le_refl 0⟩
  | case2 offset byte rest step fault refused =>
    -- Nothing is refused.
    obtain ⟨code, resolved⟩ := step.decoded.exists_resolve lenient
    exact absurd (refused.symm.trans resolved) (by simp)
  | case3 offset byte rest step code resolved ih =>
    obtain ⟨text, decoded, short⟩ := ih
    refine ⟨code :: text, by rw [decoded]; rfl, ?_⟩
    rw [List.length_drop] at short
    rw [List.length_cons, List.length_cons]
    omega

/-- Decoding with substitution gives scalar values only. -/
theorem isScalar_of_mem_decodeFrom {offset : Nat} {bytes : List UInt8} {code : CodePoint}
    (member : code ∈ (charset.decodeFrom .substitute offset bytes).output) :
    code.isScalar = true := by
  fun_induction decodeFrom charset .substitute offset bytes with
  | case1 => simp [Progress.done] at member
  | case2 => simp [Progress.stop] at member
  | case3 offset byte rest step first resolved ih =>
    rw [Progress.output_before] at member
    rcases List.mem_cons.mp member with rfl | member
    · refine Decoded.isScalar_of_resolve (fun other found => ?_) resolved
      -- What is read as a scalar value has been written for one.
      exact (next_eq_scalar_iff_encodeChar.mp
        (show charset.next (byte :: rest) true = ⟨.scalar other, _⟩ by rw [← found])).1
    · exact ih member

/-- Bytes that are decoded strictly are decoded to the same text under every policy. -/
theorem decodeFrom_of_strict {offset : Nat} {bytes : List UInt8}
    (unfailing : (charset.decodeFrom .strict offset bytes).error = none) (policy : ErrorPolicy) :
    charset.decodeFrom policy offset bytes = charset.decodeFrom .strict offset bytes := by
  fun_induction decodeFrom charset .strict offset bytes with
  | case1 => rw [decodeFrom]
  | case2 => simp [Progress.stop] at unfailing
  | case3 offset byte rest step code resolved ih =>
    -- Only a scalar value was resolved, which is what every policy makes of it.
    have same : step.decoded.resolve policy = .ok code := by
      rw [Decoded.resolve_strict_eq_ok_iff.mp resolved]
      rfl
    rw [decodeFrom]
    simp only [step] at same ih
    simp only [same, ih unfailing, step]

/-- What is written for a code point strictly is written for it under every policy. -/
theorem encodeUnder_of_strict {code : CodePoint} {piece : List UInt8}
    (written : charset.encodeUnder .strict code = .ok piece) (policy : ErrorPolicy) :
    charset.encodeUnder policy code = .ok piece := by
  -- A scalar value is admitted under every policy.
  obtain ⟨scalar, encoded⟩ := encodeUnder_strict_eq_ok_iff.mp written
  rw [CodePoint.isScalar, Bool.and_eq_true] at scalar
  have admitted : charset.admits policy code = true := by simp [admits, scalar]
  simp [encodeUnder, admitted, encoded]

/-- A charset holds its own substitute. -/
theorem holds_substitute (charset : Charset) : charset.Holds charset.substitute := by
  -- Unicode has a character for this purpose, and the other charsets take a control character.
  cases charset with
  | utf8 | utf16 order | utf32 order =>
    show CodePoint.replacement.isScalar = true
    decide
  | usAscii =>
    show (0x1A : CodePoint) < 0x80
    decide
  | latin1 =>
    show (0x1A : CodePoint) ≤ 0xFF
    decide

/-- The substitute of a charset can be written, under the strict policy as well. -/
theorem exists_encodeChar_substitute (charset : Charset) :
    ∃ piece, charset.encodeChar charset.substitute = .ok piece ∧
      charset.encodeUnder .strict charset.substitute = .ok piece := by
  -- The charset holds its substitute, which is therefore written without fail.
  obtain ⟨piece, written⟩ := exists_encodeUnder_strict_iff.mpr charset.holds_substitute
  exact ⟨piece, (encodeUnder_strict_eq_ok_iff.mp written).2, written⟩

/-- Under a lenient policy an admitted code point is written if possible, or else the substitute. -/
theorem encodeUnder_cases (lenient : policy ≠ .strict) (code : CodePoint) :
    (charset.admits policy code = true ∧ ∃ piece, charset.encodeChar code = .ok piece ∧
      charset.encodeUnder policy code = .ok piece) ∨
    charset.encodeUnder policy code = charset.encodeChar charset.substitute := by
  -- The substitute steps in both for what is not admitted and for what the charset does not hold.
  cases admitted : charset.admits policy code with
  | false => exact .inr (by simp [encodeUnder, admitted, lenient])
  | true =>
    cases encoded : charset.encodeChar code with
    | error fault => exact .inr (by simp [encodeUnder, admitted, encoded, lenient])
    | ok piece => exact .inl ⟨rfl, piece, rfl, by simp [encodeUnder, admitted, encoded]⟩

/-- Under a lenient policy something is written for every code point. -/
theorem exists_encodeUnder (lenient : policy ≠ .strict) (code : CodePoint) :
    ∃ piece, charset.encodeUnder policy code = .ok piece := by
  -- Where the code point cannot be written itself, the substitute can.
  rcases encodeUnder_cases lenient code with ⟨-, piece, -, written⟩ | substituted
  · exact ⟨piece, written⟩
  · obtain ⟨piece, encoded, -⟩ := charset.exists_encodeChar_substitute
    exact ⟨piece, substituted.trans encoded⟩

/-- Where no surrogates are kept, whatever is written is written strictly for some code point. -/
theorem exists_strict_of_encodeUnder (lenient : policy ≠ .strict)
    (bare : policy = .substitute ∨ charset.carriesSurrogates = false) {code : CodePoint}
    {piece : List UInt8} (written : charset.encodeUnder policy code = .ok piece) :
    ∃ other, charset.encodeUnder .strict other = .ok piece := by
  rcases encodeUnder_cases lenient code with ⟨admitted, other, encoded, same⟩ | substituted
  · obtain rfl : other = piece := Except.ok.inj (same.symm.trans written)
    refine ⟨code, encodeUnder_strict_eq_ok_iff.mpr ⟨?_, encoded⟩⟩
    -- No surrogate is admitted.
    rcases bare with rfl | none
    · simpa [admits, CodePoint.isScalar] using admitted
    · simpa [admits, CodePoint.isScalar, none] using admitted
  · obtain ⟨other, encoded, strict⟩ := charset.exists_encodeChar_substitute
    rw [written, encoded] at substituted
    exact ⟨charset.substitute, strict.trans substituted.symm⟩

/-- What is written leniently is well-formed, unless surrogates are kept. -/
theorem isValid_of_encode (lenient : policy ≠ .strict)
    (bare : policy = .substitute ∨ charset.carriesSurrogates = false) {text : List CodePoint}
    {bytes : List UInt8} (encoded : charset.encode policy text = ⟨bytes, none⟩) :
    charset.isValid bytes = true := by
  -- The output consists of pieces, each of which is the strict form of some character.
  obtain ⟨pieces, same, rfl⟩ := encodeFrom_eq_iff.mp encoded
  apply isValid_flatten
  intro piece member
  have written : Except.ok piece ∈ text.map (charset.encodeUnder policy) :=
    same ▸ List.mem_map_of_mem member
  obtain ⟨code, -, written⟩ := List.mem_map.mp written
  exact exists_strict_of_encodeUnder lenient bare written

/-- A text that is encoded strictly is encoded to the same bytes under every policy. -/
theorem encode_of_strict {text : List CodePoint} {bytes : List UInt8}
    (encoded : charset.encode .strict text = ⟨bytes, none⟩) (policy : ErrorPolicy) :
    charset.encode policy text = ⟨bytes, none⟩ := by
  -- The text is written piece by piece, and every piece is the same under the other policy.
  obtain ⟨pieces, same, rfl⟩ := encodeFrom_eq_iff.mp encoded
  refine encodeFrom_eq_iff.mpr ⟨pieces, ?_, rfl⟩
  rw [← same]
  apply List.map_congr_left
  intro code member
  have written : charset.encodeUnder .strict code ∈ pieces.map .ok :=
    same ▸ List.mem_map_of_mem member
  obtain ⟨piece, -, written⟩ := List.mem_map.mp written
  rw [← written, encodeUnder_of_strict written.symm policy]

/-- Lenient conversion never fails, and writes nothing ill-formed unless it keeps surrogates.

Where strict conversion succeeds, all policies give the same result. -/
theorem lenient_total (source target : Charset) :
    (∀ policy ≠ .strict, ∀ bytes, ∃ text, source.decode policy bytes = ⟨text, none⟩ ∧
      text.length ≤ bytes.length ∧
      (policy = .substitute → ∀ code ∈ text, code.isScalar = true)) ∧
    (∀ policy ≠ .strict, ∀ text, ∃ bytes, target.encode policy text = ⟨bytes, none⟩ ∧
      (policy = .substitute ∨ (∀ order, target ≠ .utf16 order) → target.isValid bytes = true)) ∧
    (∀ policy bytes text, source.decode .strict bytes = ⟨text, none⟩ →
      source.decode policy bytes = ⟨text, none⟩) ∧
    ∀ policy text bytes, target.encode .strict text = ⟨bytes, none⟩ →
      target.encode policy text = ⟨bytes, none⟩ := by
  refine ⟨?_, ?_, ?_, fun policy _ _ encoded => encode_of_strict encoded policy⟩
  · intro policy lenient bytes
    obtain ⟨text, decoded, short⟩ := source.exists_decodeFrom lenient 0 bytes
    refine ⟨text, decoded, short, ?_⟩
    rintro rfl code member
    rw [← show (source.decodeFrom .substitute 0 bytes).output = text by rw [decoded]] at member
    exact isScalar_of_mem_decodeFrom member
  · intro policy lenient text
    obtain ⟨bytes, encoded⟩ := exists_encodeFrom_iff.mpr fun code (_ : code ∈ text) =>
      target.exists_encodeUnder lenient code
    refine ⟨bytes, encoded, fun bare => isValid_of_encode lenient (bare.imp id ?_) encoded⟩
    -- UTF-16 is the only charset that carries surrogates.
    intro other
    cases target with
    | utf16 order => exact absurd rfl (other order)
    | utf8 | utf32 order | usAscii | latin1 => rfl
  · intro policy bytes text decoded
    have unfailing : (source.decodeFrom .strict 0 bytes).error = none :=
      congrArg Progress.error decoded
    exact (decodeFrom_of_strict unfailing policy).trans decoded

/-- UTF-8 holds no surrogate, neither where one is read nor where one is to be written. -/
theorem lenient_total_surrogate :
    (∃ text, utf8.decode .substitute [0xED, 0xA0, 0x80] = ⟨text, none⟩ ∧ text.length ≤ 3 ∧
      ∀ code ∈ text, code.isScalar = true) ∧
    (∃ bytes, utf8.encode .preserve [0xD800, 0x110000] = ⟨bytes, none⟩ ∧
      utf8.isValid bytes = true) ∧
    utf8.decode .preserve [0xC3, 0xA9] = ⟨[0xE9], none⟩ ∧
    utf8.encode .substitute [0xE9] = ⟨[0xC3, 0xA9], none⟩ := by
  -- A surrogate spelt in three bytes is ill-formed, and cannot be written either.
  obtain ⟨decoding, encoding, decoded, encoded⟩ := lenient_total utf8 utf8
  have strict : utf8.encode .strict [0xE9] = ⟨[0xC3, 0xA9], none⟩ := by decide
  refine ⟨?_, ?_, decoded _ _ _ (decodeFrom_strict_iff.mpr strict), encoded _ _ _ strict⟩
  · obtain ⟨text, found, short, scalars⟩ := decoding .substitute (by decide) [0xED, 0xA0, 0x80]
    exact ⟨text, found, short, scalars rfl⟩
  · obtain ⟨bytes, found, valid⟩ := encoding .preserve (by decide) [0xD800, 0x110000]
    exact ⟨bytes, found, valid (.inr fun order => by simp)⟩

end Charset

end UniText
