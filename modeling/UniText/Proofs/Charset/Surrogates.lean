import Mathlib.Data.List.Chain
import UniText.Proofs.Charset.Units

/-! Surrogates that are kept: UTF-16 gives back what it was decoded from, unit by unit. -/

namespace UniText

/-- What is no surrogate is neither a lead nor a trail. -/
theorem CodePoint.isLead_isTrail_of_bare {code : CodePoint} (bare : code.isSurrogate = false) :
    code.isLead = false ∧ code.isTrail = false := by
  rwa [isSurrogate_eq, Bool.or_eq_false_iff] at bare

/-- A scalar value is neither a lead nor a trail. -/
theorem CodePoint.isLead_isTrail_of_isScalar {code : CodePoint} (scalar : code.isScalar = true) :
    code.isLead = false ∧ code.isTrail = false := by
  -- A scalar value is no surrogate of either kind.
  rw [isScalar, Bool.and_eq_true, Bool.not_eq_true'] at scalar
  exact isLead_isTrail_of_bare scalar.2

/-- No lead surrogate of a text stands just before a trail surrogate. -/
def Unpaired (text : List CodePoint) : Prop :=
  text.IsChain fun code following => ¬(code.isLead = true ∧ following.isTrail = true)

namespace Utf16

/-- Some units begin with a trail surrogate. -/
def StartsWithTrail (units : List UInt16) : Prop :=
  ∃ unit ∈ units.head?, CodePoint.isTrail unit.toUInt32 = true

/-- A lead and the trail behind it are decoded as a pair. -/
theorem decodeFrom_pair {lead trail : UInt16} (leading : CodePoint.isLead lead.toUInt32 = true)
    (trailing : CodePoint.isTrail trail.toUInt32 = true) (policy : ErrorPolicy) (offset : Nat)
    (rest : List UInt16) : decodeFrom policy offset (lead :: trail :: rest)
      = (decodeFrom policy (offset + 2) rest).before [ofPair lead trail] := by
  -- The step covers both units, so that the trail is not read again.
  have half : CodePoint.isSurrogate lead.toUInt32 = true := by
    simp [CodePoint.isSurrogate_eq, leading]
  have step : combine lead (some trail) = ⟨.scalar (ofPair lead trail), 2⟩ := by
    simp [combine, half, leading, trailing]
  rw [decodeFrom]
  simp [nextUnits, step, Decoded.resolve]

/-- A unit that joins with no other one is decoded as the code point of its value. -/
theorem decodeFrom_alone {unit : UInt16} {rest : List UInt16}
    (alone : ¬(CodePoint.isLead unit.toUInt32 = true ∧ StartsWithTrail rest)) (offset : Nat) :
    decodeFrom .preserve offset (unit :: rest)
      = (decodeFrom .preserve (offset + 1) rest).before [unit.toUInt32] := by
  -- A unit that does not join with the next one stands for itself, surrogate or not.
  have step : (combine unit rest.head?).decoded.resolve .preserve = .ok unit.toUInt32 ∧
      (combine unit rest.head?).length = 1 := by
    cases following : rest.head? with
    | none =>
      simp only [combine]
      split <;> exact ⟨rfl, rfl⟩
    | some trail =>
      have apart :
          (CodePoint.isLead unit.toUInt32 && CodePoint.isTrail trail.toUInt32) = false := by
        rw [Bool.eq_false_iff, Ne, Bool.and_eq_true]
        exact fun pair => alone ⟨pair.1, trail, following, pair.2⟩
      simp only [combine, apart]
      split <;> exact ⟨rfl, rfl⟩
  rw [decodeFrom]
  simp [nextUnits, step]

/-- A code point with units lies in the code space, and they are one unit or a pair. -/
theorem units_cases {code : CodePoint} {front : List UInt16} (spelt : units code = .ok front) :
    code ≤ CodePoint.last ∧ ((∃ unit : UInt16, front = [unit] ∧ code = unit.toUInt32) ∨
      ∃ lead trail, front = [lead, trail] ∧ CodePoint.isLead lead.toUInt32 = true ∧
        CodePoint.isTrail trail.toUInt32 = true ∧ ofPair lead trail = code) := by
  -- One unit holds what it stands for, and two are a lead and a trail.
  have last : CodePoint.last.toNat = 0x10FFFF := rfl
  rw [UInt32.le_iff_toNat_le, last]
  rcases units_eq_ok_iff.mp spelt with ⟨small, rfl⟩ | ⟨-, most, rfl⟩
  · exact ⟨by omega, .inl ⟨_, rfl, units_single_iff.mp spelt⟩⟩
  · exact ⟨most, .inr ⟨_, _, rfl, units_pair_iff.mp spelt⟩⟩

/-- A text is decoded from the units of its first code point and of those behind it.

They must not let a lead that ends the first meet a trail that begins the others. -/
theorem decodeFrom_cons_iff {offset : Nat} {written : List UInt16} {code : CodePoint}
    {text : List CodePoint} : decodeFrom .preserve offset written = ⟨code :: text, none⟩ ↔
      ∃ front rest, units code = .ok front ∧ written = front ++ rest ∧
        ¬(code.isLead = true ∧ StartsWithTrail rest) ∧
        decodeFrom .preserve (offset + front.length) rest = ⟨text, none⟩ := by
  have before_iff {first : CodePoint} {later : Progress CodePoint} :
      later.before [first] = ⟨code :: text, none⟩ ↔ first = code ∧ later = ⟨text, none⟩ := by
    obtain ⟨output, error⟩ := later
    simp [Progress.before, and_assoc]
  constructor
  · intro decoded
    cases written with
    | nil => simp [decodeFrom, Progress.done] at decoded
    | cons unit rest =>
      by_cases joins : CodePoint.isLead unit.toUInt32 = true ∧ StartsWithTrail rest
      · obtain ⟨leading, trail, first, trailing⟩ := joins
        obtain ⟨more, rfl⟩ := List.head?_eq_some_iff.mp first
        rw [decodeFrom_pair leading trailing, before_iff] at decoded
        obtain ⟨rfl, decoded⟩ := decoded
        have spelt := units_pair_iff.mpr ⟨leading, trailing, rfl⟩
        refine ⟨_, more, spelt, rfl, ?_, decoded⟩
        -- A pair is no surrogate any more.
        have scalar := CodePoint.isLead_isTrail_of_isScalar (isScalar_ofPair leading trailing)
        simp [scalar.1]
      · rw [decodeFrom_alone joins, before_iff] at decoded
        obtain ⟨rfl, decoded⟩ := decoded
        exact ⟨[unit], rest, units_single_iff.mpr rfl, rfl, joins, decoded⟩
  · rintro ⟨front, rest, spelt, rfl, apart, decoded⟩
    rcases (units_cases spelt).2 with ⟨unit, rfl, rfl⟩ | ⟨lead, trail, rfl, leading, trailing, rfl⟩
    · exact (decodeFrom_alone apart offset).trans (before_iff.mpr ⟨rfl, decoded⟩)
    · exact (decodeFrom_pair leading trailing .preserve offset rest).trans
        (before_iff.mpr ⟨rfl, decoded⟩)

/-- A text of code points is encoded to the units of the first, and of those behind it. -/
theorem encodeFrom_cons_iff {index : Nat} {code : CodePoint} (inside : code ≤ CodePoint.last)
    {text : List CodePoint} {written : List UInt16} :
    encodeFrom .preserve index (code :: text) = ⟨written, none⟩ ↔
      ∃ front rest, units code = .ok front ∧ written = front ++ rest ∧
        encodeFrom .preserve (index + 1) text = ⟨rest, none⟩ := by
  -- Nothing in the code space is refused or replaced under this policy.
  have fit : isUnfit .preserve code = false := by
    simp [isUnfit, UInt32.not_lt.mpr inside]
  obtain ⟨front, spelt⟩ := exists_units_of_le inside
  have step : unitsUnder .preserve code = .ok front := by simp [unitsUnder, fit, spelt]
  rw [encodeFrom_cons, step, spelt]
  obtain ⟨output, error⟩ := encodeFrom .preserve (index + 1) text
  simp [Progress.before, eq_comm]

/-- A text begins with a trail surrogate exactly if its units do. -/
theorem startsWithTrail_iff {index : Nat} {text : List CodePoint} {written : List UInt16}
    (inside : ∀ code ∈ text, code ≤ CodePoint.last)
    (encoded : encodeFrom .preserve index text = ⟨written, none⟩) :
    StartsWithTrail written ↔ ∃ code ∈ text.head?, code.isTrail = true := by
  cases text with
  | nil =>
    obtain rfl : [] = written := congrArg Progress.output encoded
    simp [StartsWithTrail]
  | cons code text =>
    obtain ⟨front, rest, spelt, rfl, -⟩ := (encodeFrom_cons_iff (inside code (by simp))).mp encoded
    -- A single unit is the code point itself.
    rcases (units_cases spelt).2 with ⟨unit, rfl, rfl⟩ | ⟨lead, trail, rfl, leading, trailing, rfl⟩
    · simp [StartsWithTrail]
    · -- A pair begins with its lead, and is no surrogate itself.
      have scalar := CodePoint.isLead_isTrail_of_isScalar (isScalar_ofPair leading trailing)
      have front : CodePoint.isTrail lead.toUInt32 = false := by
        rw [Bool.eq_false_iff, Ne, isTrail_iff]
        have range := isLead_iff.mp leading
        omega
      simp [StartsWithTrail, scalar.2, front]

/-- Units are decoded to the text that they encode, if no two surrogates of it would join. -/
theorem decodeFrom_preserve_iff {offset index : Nat} {written : List UInt16}
    {text : List CodePoint} : decodeFrom .preserve offset written = ⟨text, none⟩ ↔
      encodeFrom .preserve index text = ⟨written, none⟩ ∧
        (∀ code ∈ text, code ≤ CodePoint.last) ∧ Unpaired text := by
  induction text generalizing offset index written with
  | nil =>
    cases written with
    | nil => simp [decodeFrom, encodeFrom, Progress.done, Unpaired]
    | cons unit rest =>
      -- Some units are decoded to something, if they are not refused.
      have something : decodeFrom .preserve offset (unit :: rest) ≠ ⟨[], none⟩ := by
        rw [decodeFrom]
        split <;> simp [Progress.stop, Progress.before]
      simp [something, encodeFrom, Progress.done]
  | cons code text ih =>
    rw [decodeFrom_cons_iff]
    -- A lead meets a trail in the text exactly where it meets one in the units.
    constructor
    · rintro ⟨front, rest, spelt, rfl, apart, decoded⟩
      obtain ⟨encoded, inside, unpaired⟩ := (@ih _ (index + 1) _).mp decoded
      have here := (units_cases spelt).1
      refine ⟨(encodeFrom_cons_iff here).mpr ⟨front, rest, spelt, rfl, encoded⟩,
        List.forall_mem_cons.mpr ⟨here, inside⟩, List.isChain_cons.mpr ⟨?_, unpaired⟩⟩
      rintro following first ⟨leading, trailing⟩
      exact apart ⟨leading, (startsWithTrail_iff inside encoded).mpr ⟨following, first, trailing⟩⟩
    · rintro ⟨encoded, inside, unpaired⟩
      obtain ⟨here, inside⟩ := List.forall_mem_cons.mp inside
      obtain ⟨front, rest, spelt, rfl, behind⟩ := (encodeFrom_cons_iff here).mp encoded
      obtain ⟨apart, unpaired⟩ := List.isChain_cons.mp unpaired
      refine ⟨front, rest, spelt, rfl, ?_, ih.mpr ⟨behind, inside, unpaired⟩⟩
      rintro ⟨leading, starts⟩
      obtain ⟨following, first, trailing⟩ := (startsWithTrail_iff inside behind).mp starts
      exact apart following first ⟨leading, trailing⟩

/-- Units are decoded to some text if surrogates are kept, and it is encoded to these units. -/
theorem exists_text (units : List UInt16) : ∃ text, decode .preserve units = ⟨text, none⟩ ∧
    encode .preserve text = ⟨units, none⟩ := by
  -- Decoding never fails here, and what it gives is encoded to the units again.
  have decoded : decode .preserve units = ⟨(decode .preserve units).output, none⟩ := by
    rw [← (decode_preserve units).1]
  exact ⟨_, decoded, (decodeFrom_preserve_iff.mp decoded).1⟩

/-- The units that a text is encoded to give it back exactly if no two surrogates of it join. -/
theorem decode_iff_of_encode {units : List UInt16} {text : List CodePoint}
    (encoded : encode .preserve text = ⟨units, none⟩) : decode .preserve units = ⟨text, none⟩ ↔
      (∀ code ∈ text, code ≤ CodePoint.last) ∧ Unpaired text := by
  -- That the text is encoded to the units is one half of the condition, and is given.
  have same := @decodeFrom_preserve_iff 0 0 units text
  rwa [← encode, encoded, eq_self, true_and] at same

/-- A text is encoded to some units if surrogates are kept, whatever its values are. -/
theorem exists_encode (text : List CodePoint) :
    ∃ units, encode .preserve text = ⟨units, none⟩ := by
  -- Bytes are written for the text, so that no unit was refused.
  obtain ⟨bytes, encoded⟩ := Charset.exists_encodeFrom_iff.mpr fun code (_ : code ∈ text) =>
    @Charset.exists_encodeUnder (.utf16 .big) .preserve (by decide) code
  rw [Charset.encodeFrom_utf16 .big .preserve 0 text, Progress.mk.injEq] at encoded
  exact ⟨(encode .preserve text).output, by rw [← encoded.2]; rfl⟩

end Utf16

namespace Charset

variable {order : Endian}

/-- Bytes are decoded to the text of their units, and a byte behind them to the replacement. -/
theorem decode_flatMap {units : List UInt16} {text : List CodePoint}
    (decoded : Utf16.decode .preserve units = ⟨text, none⟩) :
    (utf16 order).decode .preserve (units.flatMap (Utf16.bytesOf order)) = ⟨text, none⟩ ∧
      ∀ last, (utf16 order).decode .preserve (units.flatMap (Utf16.bytesOf order) ++ [last])
        = ⟨text ++ [CodePoint.replacement], none⟩ := by
  -- The bytes are those of the units, with nothing behind them or a single byte that is cut off.
  rw [Utf16.decode] at decoded
  simp only [decode]
  constructor
  · have whole := @decodeFrom_utf16 order .preserve 0 units [] (by decide)
    simpa [decoded, decodeFrom, Progress.done, Progress.before] using whole
  · intro last
    have odd := @decodeFrom_utf16 order .preserve 0 units [last] (Nat.lt_succ_self 1)
    simpa [decoded, decodeFrom, next, Utf16.next, Step.cutOff, Decoded.resolve, Progress.done,
      Progress.before] using odd

/-- A text is encoded to the bytes of its units. -/
theorem encode_flatMap {units : List UInt16} {text : List CodePoint}
    (encoded : Utf16.encode .preserve text = ⟨units, none⟩) :
    (utf16 order).encode .preserve text = ⟨units.flatMap (Utf16.bytesOf order), none⟩ := by
  -- Bytes are written unit by unit.
  rw [Utf16.encode] at encoded
  rw [encode, encodeFrom_utf16, encoded]

/-- In the other byte order, a text is encoded to the same bytes with those of each unit swapped. -/
theorem encode_swapUnits {units : List UInt16} {text : List CodePoint}
    (encoded : Utf16.encode .preserve text = ⟨units, none⟩) (order other : Endian) :
    (utf16 other).encode .preserve text
      = ⟨if other = order then units.flatMap (Utf16.bytesOf order)
          else Utf16.swapUnits (units.flatMap (Utf16.bytesOf order)), none⟩ := by
  -- The other order has the same units with their bytes exchanged.
  rw [encode_flatMap encoded]
  split
  · next same => rw [same]
  · next apart => rw [Utf16.swapUnits_flatMap apart]

end Charset

/-- Keeping surrogates loses nothing of UTF-16, in units and in bytes of either order.

A text is given back exactly if its values are code points, and no lead meets a trail in it. -/
theorem preserve_inverse :
    (∀ units, ∃ text, Utf16.decode .preserve units = ⟨text, none⟩ ∧
      Utf16.encode .preserve text = ⟨units, none⟩) ∧
    (∀ (order : Endian) (bytes : List UInt8), bytes.length % 2 = 0 → ∃ text,
      (Charset.utf16 order).decode .preserve bytes = ⟨text, none⟩ ∧
      (∀ other, (Charset.utf16 other).encode .preserve text
        = ⟨if other = order then bytes else Utf16.swapUnits bytes, none⟩) ∧
      ∀ last, (Charset.utf16 order).decode .preserve (bytes ++ [last])
          = ⟨text ++ [CodePoint.replacement], none⟩ ∧
        ∀ other, (Charset.utf16 other).encode .preserve (text ++ [CodePoint.replacement])
          = ⟨(if other = order then bytes else Utf16.swapUnits bytes)
              ++ Utf16.bytesOf other 0xFFFD, none⟩) ∧
    (∀ text, ∃ units, Utf16.encode .preserve text = ⟨units, none⟩ ∧
      (Utf16.decode .preserve units = ⟨text, none⟩ ↔
        (∀ code ∈ text, code ≤ CodePoint.last) ∧ Unpaired text)) ∧
    ∀ (order : Endian) (text : List CodePoint), ∃ bytes,
      (Charset.utf16 order).encode .preserve text = ⟨bytes, none⟩ ∧
      ((Charset.utf16 order).decode .preserve bytes = ⟨text, none⟩ ↔
        (∀ code ∈ text, code ≤ CodePoint.last) ∧ Unpaired text) := by
  refine ⟨Utf16.exists_text, ?_, ?_, ?_⟩
  · intro order bytes even
    obtain ⟨units, rfl⟩ := Utf16.exists_units_of_even order even
    obtain ⟨text, decoded, encoded⟩ := Utf16.exists_text units
    have written := Charset.encode_swapUnits encoded order
    refine ⟨text, (Charset.decode_flatMap decoded).1, written, fun last =>
      ⟨(Charset.decode_flatMap decoded).2 last, fun other => ?_⟩⟩
    -- The replacement is a unit of its own behind the text.
    have single : Utf16.encode .preserve [CodePoint.replacement] = ⟨[0xFFFD], none⟩ := by decide
    refine Charset.encode_append_iff.mpr ⟨_, _, written other, ?_, rfl⟩
    rw [Charset.encode_flatMap single, List.flatMap_singleton]
  · intro text
    obtain ⟨units, encoded⟩ := Utf16.exists_encode text
    exact ⟨units, encoded, Utf16.decode_iff_of_encode encoded⟩
  · intro order text
    obtain ⟨units, encoded⟩ := Utf16.exists_encode text
    refine ⟨_, Charset.encode_flatMap encoded, ?_⟩
    rw [← Utf16.decode_iff_of_encode encoded]
    -- The bytes are decoded to one text only, which is that of the units.
    obtain ⟨other, decoded, -⟩ := Utf16.exists_text units
    rw [(Charset.decode_flatMap decoded).1, decoded]

/-- A trail before its lead is kept, with a byte too many behind them; a pair of values is not. -/
theorem preserve_inverse_reversed :
    (∃ text, (Charset.utf16 .big).decode .preserve [0xDC, 0x00, 0xD8, 0x00] = ⟨text, none⟩ ∧
      (Charset.utf16 .little).encode .preserve text = ⟨[0x00, 0xDC, 0x00, 0xD8], none⟩ ∧
      (Charset.utf16 .big).decode .preserve [0xDC, 0x00, 0xD8, 0x00, 0x41]
        = ⟨text ++ [CodePoint.replacement], none⟩) ∧
    ∃ units, Utf16.encode .preserve [0xD800, 0xDC00] = ⟨units, none⟩ ∧
      Utf16.decode .preserve units ≠ ⟨[0xD800, 0xDC00], none⟩ := by
  -- A trail in front of a lead makes no pair, so that both are kept.
  obtain ⟨-, bytes, texts, -⟩ := preserve_inverse
  constructor
  · obtain ⟨text, decoded, encoded, odd⟩ := bytes .big [0xDC, 0x00, 0xD8, 0x00] rfl
    exact ⟨text, decoded, encoded .little, (odd 0x41).1⟩
  -- A lead in front of a trail cannot be told from the code point of the pair.
  · obtain ⟨units, encoded, given_back⟩ := texts [0xD800, 0xDC00]
    refine ⟨units, encoded, fun decoded => ?_⟩
    have unpaired := (given_back.mp decoded).2
    simp [Unpaired, CodePoint.isLead, CodePoint.isTrail] at unpaired

end UniText
