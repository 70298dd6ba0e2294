import Mathlib.Algebra.Group.Nat.Defs
import Mathlib.Data.List.Basic
import Mathlib.Tactic.ByContra
import UniText.Charset.Codec

/-! Characters are read from the bytes of their encodings, and from no others. -/

namespace UniText

/-- A scalar value lies below the surrogates or behind them. -/
theorem CodePoint.isScalar_iff {code : CodePoint} : code.isScalar = true ↔
    code.toNat ≤ 0xD7FF ∨ 0xE000 ≤ code.toNat ∧ code.toNat ≤ 0x10FFFF := by
  -- The surrogates are a gap in the code space.
  simp only [CodePoint.isScalar, CodePoint.isSurrogate, CodePoint.last, Bool.and_eq_true,
    Bool.not_eq_true', Bool.and_eq_false_iff, decide_eq_true_eq, decide_eq_false_iff_not,
    UInt32.le_iff_toNat_le, UInt32.toNat_ofNat]
  omega

/-- The surrogates in numbers. -/
theorem CodePoint.isSurrogate_iff {code : CodePoint} :
    code.isSurrogate = true ↔ 0xD800 ≤ code.toNat ∧ code.toNat ≤ 0xDFFF := by
  simp [CodePoint.isSurrogate, UInt32.le_iff_toNat_le]

namespace Endian

/-- Writing undoes reading, in as many bytes as were read. -/
theorem write_read (order : Endian) (bytes : List UInt8) :
    order.write bytes.length (order.read bytes) = bytes := by
  -- Big-endian bytes are reversed both ways.
  cases order with
  | little => exact toLittle_ofLittle bytes
  | big =>
    have same := toLittle_ofLittle bytes.reverse
    rw [List.length_reverse] at same
    rw [write, read, same, List.reverse_reverse]

/-- Bytes spell a number that fits into them, in either order. -/
theorem read_lt (order : Endian) (bytes : List UInt8) :
    order.read bytes < capacity bytes.length := by
  -- The byte order has no part in the number of the bytes.
  cases order with
  | little => exact ofLittle_lt bytes
  | big => simpa [read] using ofLittle_lt bytes.reverse

end Endian

namespace Utf8

/-- The trail bytes that hold the lowest bits of a number, six in each of them. -/
def trailsOf : (count : Nat) → (number : Nat) → List UInt8
  | 0, _ => []
  | count + 1, number => trailOf (number / 0x40 ^ count) :: trailsOf count number

/-- There are as many trail bytes as are asked for. -/
@[simp] theorem length_trailsOf (count number : Nat) : (trailsOf count number).length = count := by
  -- One trail is made at each step.
  induction count with
  | zero => rfl
  | succ count ih => simp [trailsOf, ih]

/-- A trail byte holds the lowest six bits of a number. -/
theorem toNat_trailOf (bits : Nat) : (trailOf bits).toNat = 0x80 + bits % 0x40 := by
  rw [trailOf, UInt8.toNat_ofNat']
  omega

/-- A byte lies in a range of trail bytes. -/
def Within (range : UInt8 × UInt8) (byte : UInt8) : Prop :=
  range.1.toNat ≤ byte.toNat ∧ byte.toNat ≤ range.2.toNat

/-- Every trail byte lies in the widest range. -/
theorem within_trailOf (bits : Nat) : Within (0x80, 0xBF) (trailOf bits) := by
  simp only [Within, toNat_trailOf, UInt8.toNat_ofNat]
  omega

/-- Trail bytes are read as the number of which they hold the bits behind those known before. -/
theorem trails_eq_scalar_iff {code used due : Nat} {range : UInt8 × UInt8}
    (low : 0x80 ≤ range.1.toNat) (high : range.2.toNat ≤ 0xBF) {bytes : List UInt8}
    {value : CodePoint} {length : Nat} :
    trails true code used due range bytes = ⟨.scalar value, length⟩ ↔
      ∃ number rest, number / 0x40 ^ due = code ∧
        (∀ later, due = later + 1 → Within range (trailOf (number / 0x40 ^ later))) ∧
        UInt32.ofNat number = value ∧ bytes = trailsOf due number ++ rest ∧
        used + due = length := by
  induction due generalizing code used range bytes with
  | zero => simp [trails, trailsOf]
  | succ due ih =>
    cases bytes with
    | nil => simp [trails, trailsOf, Step.cutOff]
    | cons byte rest =>
      -- The bits known before are those in front of the six bits of this byte.
      have shift (number : Nat) : number / 0x40 ^ (due + 1) = number / 0x40 ^ due / 0x40 := by
        rw [Nat.pow_succ, Nat.div_div_eq_div_mul]
      simp only [trailsOf, List.cons_append, List.cons.injEq, shift, Nat.add_right_cancel_iff,
        forall_eq']
      rw [trails]
      split
      · next outside =>
        simp only [Bool.or_eq_true, decide_eq_true_eq, UInt8.lt_iff_toNat_lt] at outside
        simp only [Step.mk.injEq, reduceCtorEq, false_and, false_iff]
        rintro ⟨number, rest, -, within, -, ⟨rfl, -⟩, -⟩
        exact absurd within (by simp only [Within]; omega)
      · next within =>
        simp only [Bool.or_eq_true, decide_eq_true_eq, UInt8.lt_iff_toNat_lt] at within
        rw [ih (by decide) (by decide)]
        constructor
        · rintro ⟨number, rest, bits, -, rfl, rfl, rfl⟩
          have same : trailOf (number / 0x40 ^ due) = byte := by
            rw [← UInt8.toNat_inj, toNat_trailOf]
            omega
          rw [← same] at within
          exact ⟨number, rest, by omega, by simp only [Within]; omega, rfl, ⟨same.symm, rfl⟩,
            by omega⟩
        · rintro ⟨number, rest, bits, -, rfl, ⟨rfl, rfl⟩, rfl⟩
          refine ⟨number, rest, ?_, fun _ _ => within_trailOf _, rfl, rfl, by omega⟩
          rw [toNat_trailOf]
          omega

/-- The leads of longer sequences, by the lengths of these. -/
theorem sequenceLength_eq_iff {lead : UInt8} {later : Nat} : sequenceLength lead = later + 2 ↔
    (later = 0 ∧ 0xC0 ≤ lead.toNat ∧ lead.toNat ≤ 0xDF) ∨
    (later = 1 ∧ 0xE0 ≤ lead.toNat ∧ lead.toNat ≤ 0xEF) ∨
    (later = 2 ∧ 0xF0 ≤ lead.toNat ∧ lead.toNat ≤ 0xF4) := by
  -- The ranges of leads lie one behind the other, and each has its length.
  simp only [sequenceLength, UInt8.lt_iff_toNat_lt, UInt8.toNat_ofNat]
  repeat' split
  all_goals omega

/-- The trail bytes that may follow a lead at once. -/
theorem within_firstTrail_iff {lead byte : UInt8} : Within (firstTrail lead) byte ↔
    0x80 ≤ byte.toNat ∧ byte.toNat ≤ 0xBF ∧ (lead.toNat = 0xE0 → 0xA0 ≤ byte.toNat) ∧
      (lead.toNat = 0xED → byte.toNat ≤ 0x9F) ∧ (lead.toNat = 0xF0 → 0x90 ≤ byte.toNat) ∧
      (lead.toNat = 0xF4 → byte.toNat ≤ 0x8F) := by
  -- Four leads narrow the range of the byte behind them, each at one end.
  simp only [Within, firstTrail, ← UInt8.toNat_inj]
  repeat' split
  all_goals simp_all
  all_goals omega

/-- A lead and its trail bytes hold the bits of a number. -/
def Spells (lead : UInt8) (later number : Nat) : Prop :=
  sequenceLength lead = later + 2 ∧ 0xC2 ≤ lead.toNat ∧
    number / 0x40 ^ (later + 1) = leadBits lead (later + 2) ∧
    Within (firstTrail lead) (trailOf (number / 0x40 ^ later))

/-- A lead with the bits of a number begins a sequence of two, three or four bytes. -/
theorem spells_iff {lead : UInt8} {later number : Nat} : Spells lead later number ↔
    (later = 0 ∧ 0x80 ≤ number ∧ number ≤ 0x7FF ∧ lead.toNat = 0xC0 + number / 0x40) ∨
    (later = 1 ∧ (0x800 ≤ number ∧ number ≤ 0xD7FF ∨ 0xE000 ≤ number ∧ number ≤ 0xFFFF) ∧
      lead.toNat = 0xE0 + number / 0x1000) ∨
    (later = 2 ∧ 0x10000 ≤ number ∧ number ≤ 0x10FFFF ∧
      lead.toNat = 0xF0 + number / 0x40000) := by
  -- No lead is followed by more than three bytes.
  simp only [Spells, sequenceLength_eq_iff, within_firstTrail_iff, toNat_trailOf, leadBits]
  match later with
  | 0 => simp; omega
  | 1 => simp; omega
  | 2 => simp; omega
  | later + 3 => simp

/-- A lead that is not that of overlong pairs is followed by its trail bytes. -/
theorem next_of_lead {lead : UInt8} {later : Nat} (long : sequenceLength lead = later + 2)
    (least : 0xC2 ≤ lead.toNat) (bytes : List UInt8) (atEnd : Bool) :
    next (lead :: bytes) atEnd
      = trails atEnd (leadBits lead (later + 2)) 1 (later + 1) (firstTrail lead) bytes := by
  -- The leads below C2 are sorted out before, as they begin overlong pairs.
  have pair : ¬lead < 0xC2 := by
    rw [UInt8.lt_iff_toNat_lt]
    exact Nat.not_lt.mpr least
  simp [next, long, pair]

/-- A character of more than one byte is read by its lead and its trail bytes. -/
theorem next_eq_scalar_iff_of_lead {lead : UInt8} {later : Nat}
    (long : sequenceLength lead = later + 2) (least : 0xC2 ≤ lead.toNat) {bytes : List UInt8}
    {value : CodePoint} {length : Nat} :
    next (lead :: bytes) true = ⟨.scalar value, length⟩ ↔
      ∃ number rest, Spells lead later number ∧ UInt32.ofNat number = value ∧
        bytes = trailsOf (later + 1) number ++ rest ∧ later + 2 = length := by
  -- A narrowed range consists of trails like any other.
  have range : 0x80 ≤ (firstTrail lead).1.toNat ∧ (firstTrail lead).2.toNat ≤ 0xBF := by
    unfold firstTrail
    repeat' split
    all_goals decide
  rw [next_of_lead long least, trails_eq_scalar_iff range.1 range.2]
  simp only [Spells, long, least, true_and, Nat.add_right_cancel_iff, forall_eq', and_assoc,
    Nat.add_comm 1]

/-- A code point of ASCII is encoded as the byte of its value. -/
theorem encode_ascii {code : CodePoint} (ascii : code.toNat ≤ 0x7F) :
    encode code = .ok [UInt8.ofNat code.toNat] := by
  -- The first of the lengths is that of ASCII.
  have one : length? code = some 1 := by simp [length?, UInt32.le_iff_toNat_le, ascii]
  simp [encode, one]

/-- A code point is encoded as the lead and the trail bytes that hold its bits. -/
theorem encode_of_spells {lead : UInt8} {later : Nat} {code : CodePoint}
    (spells : Spells lead later code.toNat) :
    encode code = .ok (lead :: trailsOf (later + 1) code.toNat) := by
  -- The lead is the one that the number of bytes and the highest bits make.
  have spelt {number : Nat} (same : lead.toNat = number) : UInt8.ofNat number = lead := by
    rw [← same, UInt8.ofNat_toNat]
  rcases spells_iff.mp spells with
    ⟨rfl, least, most, bits⟩ | ⟨rfl, range, bits⟩ | ⟨rfl, least, most, bits⟩
  · have two : length? code = some 2 := by
      simp only [length?, UInt32.le_iff_toNat_le, UInt32.toNat_ofNat]
      rw [if_neg (by omega), if_pos (by omega)]
    simp [encode, two, trailsOf, spelt bits]
  · have three : length? code = some 3 := by
      simp only [length?, CodePoint.isSurrogate_iff, UInt32.le_iff_toNat_le, UInt32.toNat_ofNat]
      rw [if_neg (by omega), if_neg (by omega), if_neg (by omega), if_pos (by omega)]
    simp [encode, three, trailsOf, spelt bits]
  · have four : length? code = some 4 := by
      simp only [length?, CodePoint.isSurrogate_iff, CodePoint.last, UInt32.le_iff_toNat_le,
        UInt32.toNat_ofNat]
      rw [if_neg (by omega), if_neg (by omega), if_neg (by omega), if_neg (by omega),
        if_pos (by omega)]
    simp [encode, four, trailsOf, spelt bits]

/-- The bits of every scalar value beyond ASCII are held by some lead and its trail bytes. -/
theorem exists_spells {code : CodePoint} (scalar : code.isScalar = true)
    (beyond : 0x80 ≤ code.toNat) : ∃ lead later, Spells lead later code.toNat := by
  -- The lead takes the bits that the trails leave, and these are few enough for one byte.
  have range := CodePoint.isScalar_iff.mp scalar
  have byte {number : Nat} (small : number < 0x100) : (UInt8.ofNat number).toNat = number := by
    rw [UInt8.toNat_ofNat', Nat.mod_eq_of_lt small]
  simp only [spells_iff]
  by_cases two : code.toNat ≤ 0x7FF
  · exact ⟨_, _, .inl ⟨rfl, beyond, two, byte (by omega)⟩⟩
  by_cases three : code.toNat ≤ 0xFFFF
  · exact ⟨_, _, .inr (.inl ⟨rfl, by omega, byte (by omega)⟩)⟩
  · exact ⟨_, _, .inr (.inr ⟨rfl, by omega, by omega, byte (by omega)⟩)⟩

/-- Only scalar values are encoded. -/
theorem isScalar_of_encode {code : CodePoint} {piece : List UInt8}
    (written : encode code = .ok piece) : code.isScalar = true := by
  -- A code point is refused if it has no length, and only scalar values have one.
  rw [CodePoint.isScalar_iff]
  have short : length? code ≠ none := by
    intro none
    simp [encode, none] at written
  simp only [length?, CodePoint.isSurrogate, CodePoint.last, UInt32.le_iff_toNat_le,
    UInt32.toNat_ofNat, Bool.and_eq_true, decide_eq_true_eq] at short
  -- Surrogates and values behind the code space come to the end of the table.
  by_contra outside
  rw [if_neg (by omega), if_neg (by omega)] at short
  split at short
  · exact short rfl
  · rw [if_neg (by omega), if_neg (by omega)] at short
    exact short rfl

/-- Only bytes of ASCII are sequences of their own. -/
theorem sequenceLength_eq_one_iff {lead : UInt8} : sequenceLength lead = 1 ↔ lead.toNat ≤ 0x7F := by
  -- The other ranges of leads have other lengths.
  simp only [sequenceLength, UInt8.lt_iff_toNat_lt, UInt8.toNat_ofNat]
  repeat' split
  all_goals omega

/-- A byte begins no sequence, or is ASCII, or leads overlong pairs, or leads characters. -/
theorem lead_cases (lead : UInt8) : sequenceLength lead = 0 ∨ lead.toNat ≤ 0x7F ∨
    (lead = 0xC0 ∨ lead = 0xC1) ∨ ∃ later, sequenceLength lead = later + 2 ∧ 0xC2 ≤ lead.toNat := by
  -- Among the leads of two bytes, C0 and C1 stand apart.
  match size : sequenceLength lead with
  | 0 => exact .inl rfl
  | 1 => exact .inr (.inl (sequenceLength_eq_one_iff.mp size))
  | later + 2 =>
    have range := sequenceLength_eq_iff.mp size
    simp only [← UInt8.toNat_inj, UInt8.toNat_ofNat]
    by_cases least : 0xC2 ≤ lead.toNat
    · exact .inr (.inr (.inr ⟨later, rfl, least⟩))
    · exact .inr (.inr (.inl (by omega)))

/-- A lead that UTF-8 has no use for is read as that of an overlong pair. -/
theorem next_of_unused {lead : UInt8} (unused : lead = 0xC0 ∨ lead = 0xC1) (bytes : List UInt8)
    (atEnd : Bool) : next (lead :: bytes) atEnd = overlong atEnd bytes := by
  rcases unused with rfl | rfl <;> simp [next, sequenceLength]

/-- A character begins with a byte of ASCII, or with a lead that is not that of overlong pairs. -/
theorem lead_of_next {lead : UInt8} {bytes : List UInt8} {code : CodePoint} {length : Nat}
    (read : next (lead :: bytes) true = ⟨.scalar code, length⟩) :
    lead.toNat ≤ 0x7F ∨ ∃ later, sequenceLength lead = later + 2 ∧ 0xC2 ≤ lead.toNat := by
  rcases lead_cases lead with zero | ascii | unused | longer
  · simp [next, zero] at read
  · exact .inl ascii
  · -- Whatever follows, a pair that would be overlong is no character.
    rw [next_of_unused unused] at read
    cases bytes with
    | nil => simp [overlong] at read
    | cons byte bytes =>
      rw [overlong] at read
      split at read <;> simp at read
  · exact .inr longer

/-- A byte of ASCII is read as the code point of its value. -/
theorem next_ascii {lead : UInt8} (ascii : lead.toNat ≤ 0x7F) (bytes : List UInt8) :
    next (lead :: bytes) true = ⟨.scalar lead.toUInt32, 1⟩ := by
  simp [next, sequenceLength_eq_one_iff.mpr ascii]

/-- A character is read from some bytes exactly if they begin with the bytes of its encoding. -/
theorem next_eq_scalar_iff {bytes : List UInt8} {code : CodePoint} {length : Nat} :
    next bytes true = ⟨.scalar code, length⟩ ↔
      ∃ piece rest, encode code = .ok piece ∧ bytes = piece ++ rest ∧ piece.length = length := by
  -- From bytes to a character: ASCII is read at once, and a lead with the trails that it asks for.
  constructor
  · intro read
    cases bytes with
    | nil => simp [next, Step.cutOff] at read
    | cons lead bytes =>
      rcases lead_of_next read with ascii | ⟨later, long, least⟩
      · simp only [next_ascii ascii, Step.mk.injEq, Decoded.scalar.injEq] at read
        obtain ⟨rfl, rfl⟩ := read
        have small : lead.toUInt32.toNat ≤ 0x7F := by simpa using ascii
        exact ⟨_, bytes, encode_ascii small, by simp, rfl⟩
      · obtain ⟨number, rest, spells, rfl, rfl, rfl⟩ :=
          (next_eq_scalar_iff_of_lead long least).mp read
        -- The number that is spelt fits into a word, so that it can be encoded again.
        have value : (UInt32.ofNat number).toNat = number := by
          have range := spells_iff.mp spells
          rw [UInt32.toNat_ofNat', Nat.mod_eq_of_lt (by omega)]
        have written := encode_of_spells (value.symm ▸ spells)
        rw [value] at written
        exact ⟨_, rest, written, rfl, by simp⟩
  · rintro ⟨piece, rest, written, rfl, rfl⟩
    -- From a character to bytes: its form is read back by the same rule.
    have scalar := isScalar_of_encode written
    by_cases ascii : code.toNat ≤ 0x7F
    · rw [encode_ascii ascii, Except.ok.injEq] at written
      subst written
      have value : (UInt8.ofNat code.toNat).toNat = code.toNat := by
        rw [UInt8.toNat_ofNat', Nat.mod_eq_of_lt (by omega)]
      have same : (UInt8.ofNat code.toNat).toUInt32 = code := by
        rw [← UInt32.toNat_inj, UInt8.toNat_toUInt32, value]
      rw [List.cons_append, next_ascii (by omega), same]
      rfl
    · obtain ⟨lead, later, spells⟩ := exists_spells scalar (by omega)
      rw [encode_of_spells spells, Except.ok.injEq] at written
      subst written
      rw [List.cons_append, next_eq_scalar_iff_of_lead spells.1 spells.2.1]
      exact ⟨code.toNat, rest, spells, UInt32.ofNat_toNat, rfl, by simp⟩

end Utf8

namespace Utf16

/-- A unit has two bytes. -/
@[simp] theorem length_bytesOf (order : Endian) (unit : UInt16) :
    (bytesOf order unit).length = 2 := order.length_write 2 unit.toNat

/-- Two bytes are those of the unit that they spell. -/
theorem bytesOf_unitOf (order : Endian) (first second : UInt8) :
    bytesOf order (unitOf order first second) = [first, second] := by
  -- Two bytes spell a number that fits into a unit.
  have fits : order.read [first, second] < 2 ^ 16 := order.read_lt [first, second]
  rw [bytesOf, unitOf, UInt16.toNat_ofNat', Nat.mod_eq_of_lt fits]
  exact order.write_read [first, second]

/-- A unit has two bytes, which spell it. -/
theorem exists_bytesOf (order : Endian) (unit : UInt16) :
    ∃ first second, bytesOf order unit = [first, second] ∧ unitOf order first second = unit := by
  -- A unit is written as two bytes, which are read back.
  obtain ⟨first, second, bytes⟩ := List.length_eq_two.mp (order.length_write 2 unit.toNat)
  refine ⟨first, second, bytes, ?_⟩
  rw [unitOf, ← bytes, Endian.read_write order unit.toNat_lt, UInt16.ofNat_toNat]

/-- A pair of surrogates holds ten bits in each of them, and lies beyond the first plane. -/
theorem toNat_ofPair {lead trail : UInt16} (leading : 0xD800 ≤ lead.toNat ∧ lead.toNat ≤ 0xDBFF)
    (trailing : 0xDC00 ≤ trail.toNat ∧ trail.toNat ≤ 0xDFFF) : (ofPair lead trail).toNat
      = 0x10000 + (lead.toNat - 0xD800) * 0x400 + (trail.toNat - 0xDC00) := by
  -- None of the words is reduced, since lead and trail are in their ranges.
  simp only [ofPair, UInt32.toNat_add, UInt32.toNat_mul, UInt32.toNat_sub, UInt32.toNat_ofNat,
    UInt16.toNat_toUInt32]
  omega

/-- The lead of a pair holds the upper ten bits. -/
theorem toNat_leadOf {code : CodePoint} (least : 0x10000 ≤ code.toNat)
    (most : code.toNat ≤ 0x10FFFF) :
    (leadOf code).toNat = 0xD800 + (code.toNat - 0x10000) / 0x400 := by
  -- The upper ten bits are few enough for the range of leads.
  simp only [leadOf, UInt32.toNat_toUInt16, UInt32.toNat_add, UInt32.toNat_div, UInt32.toNat_sub,
    UInt32.toNat_ofNat, Nat.reducePow, Nat.reduceMod]
  omega

/-- The trail of a pair holds the lower ten bits. -/
theorem toNat_trailOf {code : CodePoint} (least : 0x10000 ≤ code.toNat)
    (most : code.toNat ≤ 0x10FFFF) :
    (trailOf code).toNat = 0xDC00 + (code.toNat - 0x10000) % 0x400 := by
  -- The lower ten bits are few enough for the range of trails.
  simp only [trailOf, UInt32.toNat_toUInt16, UInt32.toNat_add, UInt32.toNat_mod, UInt32.toNat_sub,
    UInt32.toNat_ofNat, Nat.reducePow, Nat.reduceMod]
  omega

/-- The units of a scalar value are one that is no surrogate, or a pair of surrogates. -/
theorem units_eq_ok_iff {code : CodePoint} {written : List UInt16} :
    units code = .ok written ↔
      (code.toNat ≤ 0xFFFF ∧ written = [code.toUInt16]) ∨
      (0x10000 ≤ code.toNat ∧ code.toNat ≤ 0x10FFFF ∧ written = [leadOf code, trailOf code]) := by
  -- The first plane takes one unit, and the planes behind it take two.
  simp only [units, CodePoint.last, UInt32.le_iff_toNat_le, UInt32.toNat_ofNat]
  split
  · grind
  · split <;> grind

/-- The lead surrogates, as units. -/
theorem isLead_iff {unit : UInt16} : CodePoint.isLead unit.toUInt32 = true ↔
    0xD800 ≤ unit.toNat ∧ unit.toNat ≤ 0xDBFF := by
  simp [CodePoint.isLead, UInt32.le_iff_toNat_le]

/-- The trail surrogates, as units. -/
theorem isTrail_iff {unit : UInt16} : CodePoint.isTrail unit.toUInt32 = true ↔
    0xDC00 ≤ unit.toNat ∧ unit.toNat ≤ 0xDFFF := by
  simp [CodePoint.isTrail, UInt32.le_iff_toNat_le]

/-- One unit stands for the code point of its value. -/
theorem units_single_iff {code : CodePoint} {unit : UInt16} :
    units code = .ok [unit] ↔ code = unit.toUInt32 := by
  -- Two units are never one, so that only the first plane is left.
  have small := unit.toNat_lt
  simp only [units_eq_ok_iff, List.cons.injEq, reduceCtorEq, and_false, and_true, or_false,
    ← UInt16.toNat_inj, ← UInt32.toNat_inj, UInt32.toNat_toUInt16, UInt16.toNat_toUInt32]
  omega

/-- Two units stand for the pair that they are, if the one is a lead and the other a trail. -/
theorem units_pair_iff {code : CodePoint} {lead trail : UInt16} :
    units code = .ok [lead, trail] ↔ CodePoint.isLead lead.toUInt32 = true ∧
      CodePoint.isTrail trail.toUInt32 = true ∧ ofPair lead trail = code := by
  -- The code point and its pair have the same twenty bits above the first plane.
  simp only [units_eq_ok_iff, isLead_iff, isTrail_iff, List.cons.injEq, reduceCtorEq, and_false,
    false_or, and_true]
  constructor
  · rintro ⟨least, most, rfl, rfl⟩
    have high := toNat_leadOf least most
    have low := toNat_trailOf least most
    refine ⟨by omega, by omega, ?_⟩
    rw [← UInt32.toNat_inj, toNat_ofPair (by omega) (by omega)]
    omega
  · rintro ⟨leading, trailing, rfl⟩
    have value := toNat_ofPair leading trailing
    have high := @toNat_leadOf (ofPair lead trail) (by omega) (by omega)
    have low := @toNat_trailOf (ofPair lead trail) (by omega) (by omega)
    rw [← UInt16.toNat_inj, ← UInt16.toNat_inj]
    omega

/-- A pair of surrogates is a scalar value. -/
theorem isScalar_ofPair {lead trail : UInt16} (leading : CodePoint.isLead lead.toUInt32 = true)
    (trailing : CodePoint.isTrail trail.toUInt32 = true) : (ofPair lead trail).isScalar = true := by
  -- A pair stands for a value behind the first plane, and so behind the surrogates.
  rw [isLead_iff] at leading
  rw [isTrail_iff] at trailing
  rw [CodePoint.isScalar_iff, toNat_ofPair leading trailing]
  omega

/-- A unit, alone or with the one after it, is read as the scalar value that has these units. -/
theorem combine_eq_scalar_iff {unit : UInt16} {following : Option UInt16} {code : CodePoint}
    {length : Nat} :
    combine unit following = ⟨.scalar code, length⟩ ↔ code.isScalar = true ∧
      ((units code = .ok [unit] ∧ length = 1) ∨
        ∃ trail, following = some trail ∧ units code = .ok [unit, trail] ∧ length = 2) := by
  simp only [units_single_iff, units_pair_iff]
  have half := CodePoint.isSurrogate_eq unit.toUInt32
  cases surrogate : CodePoint.isSurrogate unit.toUInt32 with
  | false =>
    -- A unit that is no surrogate is no lead either.
    have other : CodePoint.isLead unit.toUInt32 = false := by
      rw [surrogate] at half
      exact (Bool.or_eq_false_iff.mp half.symm).1
    have scalar : CodePoint.isScalar unit.toUInt32 = true := by
      have small := unit.toNat_lt
      simp only [CodePoint.isScalar, surrogate, CodePoint.last, UInt32.le_iff_toNat_le,
        UInt16.toNat_toUInt32, Bool.not_false, Bool.and_true, decide_eq_true_eq]
      exact Nat.le_trans (Nat.le_of_lt small) (by decide)
    simp only [combine, surrogate, other, Bool.not_false, if_true, Step.mk.injEq,
      Decoded.scalar.injEq, Bool.false_eq_true, false_and, and_false, exists_false, or_false]
    constructor
    · rintro ⟨rfl, rfl⟩
      exact ⟨scalar, rfl, rfl⟩
    · rintro ⟨-, rfl, rfl⟩
      exact ⟨rfl, rfl⟩
  | true =>
    -- A surrogate by itself is no scalar value, and a pair of them is one.
    have alone : ¬(code.isScalar = true ∧ code = unit.toUInt32) := by
      rintro ⟨scalar, rfl⟩
      simp [CodePoint.isScalar, surrogate] at scalar
    cases following with
    | none =>
      simp only [combine, surrogate, Bool.not_true, Bool.false_eq_true, if_false, Step.mk.injEq,
        reduceCtorEq, false_and, exists_false, or_false, false_iff]
      exact fun read => alone ⟨read.1, read.2.1⟩
    | some trail =>
      by_cases pair :
          CodePoint.isLead unit.toUInt32 = true ∧ CodePoint.isTrail trail.toUInt32 = true
      · obtain ⟨leading, trailing⟩ := pair
        simp only [combine, surrogate, leading, trailing, Bool.not_true, Bool.false_eq_true,
          if_false, Bool.and_self, if_true, true_and, Step.mk.injEq, Decoded.scalar.injEq,
          Option.some.injEq]
        constructor
        · rintro ⟨rfl, rfl⟩
          exact ⟨isScalar_ofPair leading trailing, .inr ⟨trail, rfl, ⟨trailing, rfl⟩, rfl⟩⟩
        · rintro ⟨scalar, ⟨same, -⟩ | ⟨_, rfl, ⟨-, rfl⟩, rfl⟩⟩
          · exact absurd ⟨scalar, same⟩ alone
          · exact ⟨rfl, rfl⟩
      · simp only [combine, surrogate, Bool.not_true, Bool.false_eq_true, if_false,
          Bool.and_eq_true, pair, Step.mk.injEq, reduceCtorEq, false_and, false_iff]
        rintro ⟨scalar, ⟨same, -⟩ | ⟨_, following, ⟨leading, trailing, -⟩, -⟩⟩
        · exact alone ⟨scalar, same⟩
        · rw [Option.some.injEq] at following
          exact pair ⟨leading, following ▸ trailing⟩

/-- The unit that some bytes begin with. -/
def firstUnit (order : Endian) : List UInt8 → Option UInt16
  | first :: second :: _ => some (unitOf order first second)
  | _ => none

/-- Some bytes begin with a unit exactly if they begin with its bytes. -/
theorem firstUnit_eq_some_iff {order : Endian} {bytes : List UInt8} {unit : UInt16} :
    firstUnit order bytes = some unit ↔ ∃ rest, bytes = bytesOf order unit ++ rest := by
  -- There is a first unit as soon as there are two bytes.
  constructor
  · intro begins
    match bytes with
    | [] | [_] => simp [firstUnit] at begins
    | first :: second :: rest =>
      rw [firstUnit, Option.some.injEq] at begins
      exact ⟨rest, by rw [← begins, bytesOf_unitOf]; rfl⟩
  · rintro ⟨rest, rfl⟩
    obtain ⟨first, second, two, spelt⟩ := exists_bytesOf order unit
    rw [two, ← spelt]
    rfl

/-- At the end of the input the first unit is read together with the one after it, if any. -/
theorem next_bytesOf (order : Endian) (unit : UInt16) (rest : List UInt8) :
    next order (bytesOf order unit ++ rest) true
      = ⟨(combine unit (firstUnit order rest)).decoded,
        (combine unit (firstUnit order rest)).length * 2⟩ := by
  -- What follows matters only as far as it makes up another unit.
  obtain ⟨first, second, two, spelt⟩ := exists_bytesOf order unit
  rw [two, List.cons_append, List.cons_append, ← spelt]
  match rest with
  | [] | [_] | _ :: _ :: _ => simp [next, firstUnit]

/-- A character is read from some bytes exactly if they begin with the bytes of its units. -/
theorem next_eq_scalar_iff {order : Endian} {bytes : List UInt8} {code : CodePoint} {length : Nat} :
    next order bytes true = ⟨.scalar code, length⟩ ↔ code.isScalar = true ∧
      ∃ piece rest, encodeBytes order code = .ok piece ∧ bytes = piece ++ rest ∧
        piece.length = length := by
  constructor
  · intro read
    cases begins : firstUnit order bytes with
    | none =>
      -- Less than a unit is cut off.
      match bytes with
      | [] | [_] => simp [next, Step.cutOff] at read
      | _ :: _ :: _ => simp [firstUnit] at begins
    | some unit =>
      obtain ⟨rest, rfl⟩ := firstUnit_eq_some_iff.mp begins
      rw [next_bytesOf, Step.mk.injEq] at read
      obtain ⟨scalar, written⟩ := combine_eq_scalar_iff.mp
        (show combine unit (firstUnit order rest) = ⟨.scalar code, _⟩ by rw [← read.1])
      refine ⟨scalar, ?_⟩
      rcases written with ⟨single, one⟩ | ⟨trail, follows, pair, two⟩
      · refine ⟨bytesOf order unit, rest, by simp [encodeBytes, single, Except.map], rfl, ?_⟩
        rw [← read.2, one, length_bytesOf]
      · obtain ⟨more, rfl⟩ := firstUnit_eq_some_iff.mp follows
        refine ⟨bytesOf order unit ++ bytesOf order trail, more,
          by simp [encodeBytes, pair, Except.map], by simp, ?_⟩
        rw [← read.2, two, List.length_append, length_bytesOf, length_bytesOf]
  · rintro ⟨scalar, piece, rest, written, rfl, rfl⟩
    cases spelt : units code with
    | error fault => simp [encodeBytes, spelt, Except.map] at written
    | ok parts =>
      simp only [encodeBytes, spelt, Except.map, Except.ok.injEq] at written
      subst written
      rcases units_eq_ok_iff.mp spelt with ⟨-, rfl⟩ | ⟨-, -, rfl⟩
      · have read : combine code.toUInt16 (firstUnit order rest) = ⟨.scalar code, 1⟩ :=
          combine_eq_scalar_iff.mpr ⟨scalar, .inl ⟨spelt, rfl⟩⟩
        simp [next_bytesOf, read]
      · have follows : firstUnit order (bytesOf order (trailOf code) ++ rest)
            = some (trailOf code) :=
          firstUnit_eq_some_iff.mpr ⟨rest, rfl⟩
        have read : combine (leadOf code) (some (trailOf code)) = ⟨.scalar code, 2⟩ :=
          combine_eq_scalar_iff.mpr ⟨scalar, .inr ⟨_, rfl, spelt, rfl⟩⟩
        simp [next_bytesOf, follows, read]

end Utf16

namespace Utf32

/-- A unit is classified as the scalar value that it is. -/
theorem classify_eq_scalar_iff {unit : UInt32} {code : CodePoint} :
    classify unit = .scalar code ↔ code.isScalar = true ∧ unit = code := by
  -- The two tests in turn leave out what lies behind the code space, and the surrogates.
  simp only [classify, CodePoint.isScalar, Bool.and_eq_true, decide_eq_true_eq]
  split
  · next beyond =>
    simp only [reduceCtorEq, false_iff]
    rintro ⟨⟨inside, -⟩, rfl⟩
    exact UInt32.not_lt.mpr inside beyond
  · next inside =>
    split
    · next surrogate =>
      simp only [reduceCtorEq, false_iff]
      rintro ⟨⟨-, other⟩, rfl⟩
      simp [surrogate] at other
    · next other =>
      rw [Decoded.scalar.injEq]
      constructor
      · rintro rfl
        exact ⟨⟨UInt32.not_lt.mp inside, by simpa using other⟩, rfl⟩
      · exact fun same => same.2

/-- The bytes of a unit. -/
def bytesOf (order : Endian) (unit : UInt32) : List UInt8 := order.write 4 unit.toNat

/-- A unit is read from the four bytes that it takes. -/
theorem next_bytesOf (order : Endian) (unit : UInt32) (rest : List UInt8) :
    next order (bytesOf order unit ++ rest) true = ⟨classify unit, 4⟩ := by
  -- Any unit is written as four bytes.
  obtain ⟨first, second, third, fourth, four⟩ :
      ∃ first second third fourth, bytesOf order unit = [first, second, third, fourth] := by
    have size : (bytesOf order unit).length = 4 := order.length_write 4 unit.toNat
    match bytesOf order unit, size with
    | [first, second, third, fourth], _ => exact ⟨first, second, third, fourth, rfl⟩
  have value : UInt32.ofNat (order.read (bytesOf order unit)) = unit := by
    rw [bytesOf, Endian.read_write order unit.toNat_lt, UInt32.ofNat_toNat]
  -- These four are all that is looked at.
  rw [four] at value ⊢
  show (⟨classify _, 4⟩ : Step) = _
  rw [value]

/-- A character is read from some bytes exactly if they begin with the bytes of its value. -/
theorem next_eq_scalar_iff {order : Endian} {bytes : List UInt8} {code : CodePoint} {length : Nat} :
    next order bytes true = ⟨.scalar code, length⟩ ↔ code.isScalar = true ∧
      ∃ piece rest, encodeBytes order code = .ok piece ∧ bytes = piece ++ rest ∧
        piece.length = length := by
  have inside (scalar : code.isScalar = true) : ¬CodePoint.last < code := by
    rw [CodePoint.isScalar, Bool.and_eq_true, decide_eq_true_eq] at scalar
    exact UInt32.not_lt.mpr scalar.1
  -- Four bytes are there, and they spell the value that is written as them.
  constructor
  · intro read
    match bytes with
    | [] | [_] | [_, _] | [_, _, _] => simp [next, Step.cutOff] at read
    | first :: second :: third :: fourth :: rest =>
      rw [next, Step.mk.injEq, classify_eq_scalar_iff] at read
      obtain ⟨⟨scalar, rfl⟩, rfl⟩ := read
      have fits : order.read [first, second, third, fourth] < 2 ^ 32 := order.read_lt _
      refine ⟨scalar, [first, second, third, fourth], rest, ?_, rfl, rfl⟩
      rw [encodeBytes, if_neg (inside scalar), UInt32.toNat_ofNat', Nat.mod_eq_of_lt fits]
      exact congrArg Except.ok (order.write_read [first, second, third, fourth])
  · rintro ⟨scalar, piece, rest, written, rfl, rfl⟩
    rw [encodeBytes, if_neg (inside scalar), Except.ok.injEq] at written
    subst written
    have classified : classify code = .scalar code := classify_eq_scalar_iff.mpr ⟨scalar, rfl⟩
    rw [order.length_write, ← classified]
    exact next_bytesOf order code rest

end Utf32

namespace SingleByte

/-- A character is read from some bytes exactly if they begin with its byte. -/
theorem next_eq_scalar_iff {limit : Nat} (byteWide : limit ≤ 0xFF) {bytes : List UInt8}
    {code : CodePoint} {length : Nat} :
    next limit bytes true = ⟨.scalar code, length⟩ ↔
      ∃ piece rest, encode limit code = .ok piece ∧ bytes = piece ++ rest ∧
        piece.length = length := by
  -- The limit is compared with the byte in one direction, and with the code point in the other.
  constructor
  · intro read
    cases bytes with
    | nil => simp [next, Step.cutOff] at read
    | cons byte rest =>
      rw [next] at read
      split at read
      · next mapped =>
        simp only [Step.mk.injEq, Decoded.scalar.injEq] at read
        obtain ⟨rfl, rfl⟩ := read
        exact ⟨[byte], rest, by simp [encode, mapped], rfl, rfl⟩
      · simp at read
  · rintro ⟨piece, rest, written, rfl, rfl⟩
    rw [encode] at written
    split at written
    · next mapped =>
      rw [Except.ok.injEq] at written
      subst written
      -- Up to the limit a code point is the value of its byte.
      have value : code.toUInt8.toUInt32 = code := by
        rw [← UInt32.toNat_inj, UInt8.toNat_toUInt32, UInt32.toNat_toUInt8]
        omega
      have same : code.toUInt8.toNat = code.toNat := by rw [← UInt8.toNat_toUInt32, value]
      simp [next, value, same, mapped]
    · simp at written

/-- A code point that has a byte is a scalar value. -/
theorem isScalar_of_encode {limit : Nat} (byteWide : limit ≤ 0xFF) {code : CodePoint}
    {piece : List UInt8} (written : encode limit code = .ok piece) : code.isScalar = true := by
  -- A byte is too small for a surrogate.
  rw [encode] at written
  split at written
  · rw [CodePoint.isScalar_iff]
    omega
  · simp at written

end SingleByte

namespace Charset

/-- A charset holds the scalar values, or those of them for which it has a byte. -/
def Holds (charset : Charset) (code : CodePoint) : Prop :=
  match charset with
  | utf8 | utf16 _ | utf32 _ => code.isScalar = true
  | usAscii => code < 0x80
  | latin1 => code ≤ 0xFF

/-- Without substitutes the bytes of a scalar value are all that is written. -/
theorem encodeUnder_strict_eq_ok_iff {charset : Charset} {code : CodePoint} {piece : List UInt8} :
    charset.encodeUnder .strict code = .ok piece ↔
      code.isScalar = true ∧ charset.encodeChar code = .ok piece := by
  -- Just the scalar values are admitted, and a failure is passed on.
  have admitted : charset.admits .strict code = code.isScalar := by
    simp [admits, CodePoint.isScalar]
  unfold encodeUnder
  rw [admitted]
  cases scalar : code.isScalar with
  | false => simp
  | true => cases charset.encodeChar code <;> simp

/-- A charset has bytes for just those code points that it holds. -/
theorem exists_encodeUnder_strict_iff {charset : Charset} {code : CodePoint} :
    (∃ piece, charset.encodeUnder .strict code = .ok piece) ↔ charset.Holds code := by
  simp only [encodeUnder_strict_eq_ok_iff, exists_and_left]
  -- A scalar value of Unicode always has bytes, and a byte is always a scalar value.
  have single (limit : Nat) (byteWide : limit ≤ 0xFF) :
      (code.isScalar = true ∧ ∃ piece, SingleByte.encode limit code = .ok piece) ↔
        code.toNat ≤ limit := by
    constructor
    · rintro ⟨-, piece, written⟩
      by_contra beyond
      simp [SingleByte.encode, beyond] at written
    · intro mapped
      have written : SingleByte.encode limit code = .ok [code.toUInt8] := by
        simp [SingleByte.encode, mapped]
      exact ⟨SingleByte.isScalar_of_encode byteWide written, _, written⟩
  cases charset with
  | utf8 =>
    refine and_iff_left_of_imp fun scalar => ?_
    by_cases ascii : code.toNat ≤ 0x7F
    · exact ⟨_, Utf8.encode_ascii ascii⟩
    · obtain ⟨lead, later, spells⟩ := Utf8.exists_spells scalar (by omega)
      exact ⟨_, Utf8.encode_of_spells spells⟩
  | utf16 order =>
    refine and_iff_left_of_imp fun scalar => ?_
    obtain ⟨written, spelt⟩ : ∃ written, Utf16.units code = .ok written := by
      have range := CodePoint.isScalar_iff.mp scalar
      by_cases single : code.toNat ≤ 0xFFFF
      · exact ⟨_, Utf16.units_eq_ok_iff.mpr (.inl ⟨single, rfl⟩)⟩
      · exact ⟨_, Utf16.units_eq_ok_iff.mpr (.inr ⟨by omega, by omega, rfl⟩)⟩
    exact ⟨_, by rw [encodeChar, Utf16.encodeBytes, spelt]; rfl⟩
  | utf32 order =>
    refine and_iff_left_of_imp fun scalar => ⟨_, if_neg ?_⟩
    rw [CodePoint.isScalar, Bool.and_eq_true, decide_eq_true_eq] at scalar
    exact UInt32.not_lt.mpr scalar.1
  | usAscii =>
    rw [Holds, UInt32.lt_iff_toNat_lt]
    exact (single 0x7F (by decide)).trans Nat.lt_succ_iff.symm
  | latin1 =>
    rw [Holds, UInt32.le_iff_toNat_le]
    exact single 0xFF (by decide)

/-- A character is read from some bytes exactly if it is a scalar value and they begin with its. -/
theorem next_eq_scalar_iff_encodeChar {charset : Charset} {bytes : List UInt8} {code : CodePoint}
    {length : Nat} :
    charset.next bytes true = ⟨.scalar code, length⟩ ↔ code.isScalar = true ∧
      ∃ piece rest, charset.encodeChar code = .ok piece ∧ bytes = piece ++ rest ∧
        piece.length = length := by
  -- Where only scalar values have bytes, to say that it is one adds nothing.
  cases charset with
  | utf8 =>
    exact Utf8.next_eq_scalar_iff.trans (and_iff_right_of_imp
      fun ⟨_, _, written, _⟩ => Utf8.isScalar_of_encode written).symm
  | utf16 order => exact Utf16.next_eq_scalar_iff
  | utf32 order => exact Utf32.next_eq_scalar_iff
  | usAscii =>
    exact (SingleByte.next_eq_scalar_iff (by decide)).trans (and_iff_right_of_imp
      fun ⟨_, _, written, _⟩ => SingleByte.isScalar_of_encode (by decide) written).symm
  | latin1 =>
    exact (SingleByte.next_eq_scalar_iff (by decide)).trans (and_iff_right_of_imp
      fun ⟨_, _, written, _⟩ => SingleByte.isScalar_of_encode (by decide) written).symm

/-- A character is read from some bytes exactly if they begin with what is written for it. -/
theorem next_eq_scalar_iff {charset : Charset} {bytes : List UInt8} {code : CodePoint}
    {length : Nat} :
    charset.next bytes true = ⟨.scalar code, length⟩ ↔
      ∃ piece rest, charset.encodeUnder .strict code = .ok piece ∧ bytes = piece ++ rest ∧
        piece.length = length := by
  -- The strict policy asks for a scalar value on top of its bytes.
  simp only [next_eq_scalar_iff_encodeChar, encodeUnder_strict_eq_ok_iff, and_assoc,
    exists_and_left]

end Charset

end UniText
