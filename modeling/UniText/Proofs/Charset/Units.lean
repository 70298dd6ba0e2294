import UniText.Proofs.Charset.Lenient
import UniText.Proofs.Charset.Range

/-! UTF-16 in bytes is UTF-16 in units, in either byte order and under every policy. -/

namespace UniText

/-- An error that was counted in units of some width, counted in bytes. -/
def CodecError.inBytes (width : Nat) (error : CodecError) : CodecError :=
  { error with offset := error.offset * width, length := error.length * width }

namespace Utf16

variable {order : Endian}

/-- A value has no place in the output under a policy. -/
def isUnfit (policy : ErrorPolicy) (code : CodePoint) : Bool :=
  CodePoint.last < code || (CodePoint.isSurrogate code && policy ≠ .preserve)

/-- The units of a code point under a policy. -/
def unitsUnder (policy : ErrorPolicy) (code : CodePoint) : Except Fault (List UInt16) :=
  if isUnfit policy code && policy = .strict then .error .illegalSequence
  else units (if isUnfit policy code then CodePoint.replacement else code)

/-- A text is encoded one code point after the other. -/
theorem encodeFrom_cons (policy : ErrorPolicy) (index : Nat) (code : CodePoint)
    (text : List CodePoint) : encodeFrom policy index (code :: text) =
      match unitsUnder policy code with
      | .error fault => .stop ⟨fault, index, 1⟩
      | .ok written => (encodeFrom policy (index + 1) text).before written := by
  -- Whether a code point is unfit is decided once, for the test and for the replacement.
  rw [encodeFrom, unitsUnder, show (CodePoint.last < code ||
    (CodePoint.isSurrogate code && policy ≠ .preserve) : Bool) = isUnfit policy code from rfl]
  cases isUnfit policy code && policy = .strict <;> rfl

/-- Every run of bytes is the bytes of some units, with at most one byte behind them. -/
theorem exists_units (order : Endian) (bytes : List UInt8) :
    ∃ (units : List UInt16) (tail : List UInt8),
      bytes = units.flatMap (bytesOf order) ++ tail ∧ tail.length < 2 := by
  -- Two bytes at a time make a unit, until less than that is left.
  match bytes with
  | [] => exact ⟨[], [], rfl, by simp⟩
  | [byte] => exact ⟨[], [byte], rfl, by simp⟩
  | first :: second :: rest =>
    obtain ⟨units, tail, rfl, short⟩ := exists_units order rest
    refine ⟨unitOf order first second :: units, tail, ?_, short⟩
    rw [List.flatMap_cons, bytesOf_unitOf]
    rfl

/-- Units take two bytes each. -/
theorem length_flatMap_bytesOf (units : List UInt16) :
    (units.flatMap (bytesOf order)).length = units.length * 2 := by
  -- Every unit adds two bytes.
  induction units with
  | nil => rfl
  | cons unit units ih =>
    rw [List.flatMap_cons, List.length_append, length_bytesOf, ih, List.length_cons]
    omega

/-- Bytes of an even number are those of some units. -/
theorem exists_units_of_even (order : Endian) {bytes : List UInt8} (even : bytes.length % 2 = 0) :
    ∃ units : List UInt16, bytes = units.flatMap (bytesOf order) := by
  obtain ⟨units, tail, rfl, short⟩ := exists_units order bytes
  -- A single byte behind the units would make the number odd.
  obtain rfl : tail = [] := by
    rw [List.length_append, length_flatMap_bytesOf] at even
    exact List.eq_nil_of_length_eq_zero (by omega)
  exact ⟨units, List.append_nil _⟩

/-- The first unit of some bytes is the first of the units that they are the bytes of. -/
theorem firstUnit_flatMap (units : List UInt16) {tail : List UInt8} (short : tail.length < 2) :
    firstUnit order (units.flatMap (bytesOf order) ++ tail) = units.head? := by
  -- The tail alone does not make a unit.
  cases units with
  | nil =>
    match tail, short with
    | [], _ | [_], _ => rfl
  | cons unit units =>
    rw [List.flatMap_cons, List.append_assoc]
    exact firstUnit_eq_some_iff.mpr ⟨_, rfl⟩

/-- Two bytes are dropped for each unit. -/
theorem drop_flatMap {count : Nat} {units : List UInt16} (enough : count ≤ units.length)
    (tail : List UInt8) : (units.flatMap (bytesOf order) ++ tail).drop (count * 2)
      = (units.drop count).flatMap (bytesOf order) ++ tail := by
  -- The bytes of the units dropped are all that is dropped.
  have split : units.flatMap (bytesOf order) ++ tail = (units.take count).flatMap (bytesOf order)
      ++ ((units.drop count).flatMap (bytesOf order) ++ tail) := by
    rw [← List.append_assoc, ← List.flatMap_append, List.take_append_drop]
  rw [split, List.drop_left']
  rw [length_flatMap_bytesOf, List.length_take_of_le enough]

/-- A unit is read from its bytes as it is read from the units, twice as long. -/
theorem next_flatMap (unit : UInt16) (rest : List UInt16) {tail : List UInt8}
    (short : tail.length < 2) :
    next order ((unit :: rest).flatMap (bytesOf order) ++ tail) true
      = ⟨(nextUnits (unit :: rest)).decoded, (nextUnits (unit :: rest)).length * 2⟩ := by
  -- The bytes of the first unit are followed by those of the next one, if it is there.
  rw [List.flatMap_cons, List.append_assoc, next_bytesOf, firstUnit_flatMap rest short]
  rfl

/-- A step over units covers some of them, and no more than there are. -/
theorem length_nextUnits (unit : UInt16) (rest : List UInt16) :
    0 < (nextUnits (unit :: rest)).length ∧
      (nextUnits (unit :: rest)).length ≤ (unit :: rest).length := by
  obtain ⟨-, positive, most⟩ := combine_decided unit rest.head?
  -- A pair is only made with a unit that is there.
  refine ⟨positive, Nat.le_trans most ?_⟩
  cases rest with
  | nil => exact Nat.le_refl _
  | cons trail rest =>
    rw [List.head?_cons, Option.toList_some, List.length_singleton, List.length_cons,
      List.length_cons]
    omega

/-- The bytes with the two of every unit exchanged; a byte behind the last unit stays. -/
def swapUnits : List UInt8 → List UInt8
  | first :: second :: rest => second :: first :: swapUnits rest
  | rest => rest

/-- Exchanging the two bytes of every unit leads from one byte order to the other. -/
theorem swapUnits_flatMap {other : Endian} (apart : other ≠ order) (units : List UInt16) :
    swapUnits (units.flatMap (bytesOf order)) = units.flatMap (bytesOf other) := by
  induction units with
  | nil => rfl
  | cons unit units ih =>
    obtain ⟨first, second, two⟩ := List.length_eq_two.mp (length_bytesOf order unit)
    -- There are only two orders, and one has the bytes of the other from back to front.
    have reversed : bytesOf other unit = [second, first] := by
      cases order <;> cases other <;> simp_all [bytesOf, Endian.write]
    rw [List.flatMap_cons, List.flatMap_cons, two, reversed, ← ih]
    rfl

end Utf16

namespace Charset

variable {order : Endian}

/-- Decoding the bytes of some units takes the step over the units, and goes on behind it. -/
theorem decodeFrom_flatMap_cons (policy : ErrorPolicy) (offset : Nat) (unit : UInt16)
    (rest : List UInt16) {tail : List UInt8} (short : tail.length < 2) {step : Step}
    (taken : Utf16.nextUnits (unit :: rest) = step) :
    (utf16 order).decodeFrom policy (offset * 2)
        ((unit :: rest).flatMap (Utf16.bytesOf order) ++ tail) =
      match step.decoded.resolve policy with
      | .error fault => .stop (CodecError.inBytes 2 ⟨fault, offset, step.length⟩)
      | .ok code => ((utf16 order).decodeFrom policy ((offset + step.length) * 2)
          ((rest.drop (step.length - 1)).flatMap (Utf16.bytesOf order) ++ tail)).before [code] := by
  obtain ⟨covered, most⟩ := taken ▸ Utf16.length_nextUnits unit rest
  have read : (utf16 order).next ((unit :: rest).flatMap (Utf16.bytesOf order) ++ tail) true
      = ⟨step.decoded, step.length * 2⟩ := taken ▸ Utf16.next_flatMap unit rest short
  have nonempty : (unit :: rest).flatMap (Utf16.bytesOf order) ++ tail ≠ [] := by
    rw [← List.length_pos_iff, List.length_append, Utf16.length_flatMap_bytesOf, List.length_cons]
    omega
  have moved : (⟨step.decoded, step.length * 2⟩ : Step).advance = step.length * 2 :=
    Step.advance_eq (Nat.mul_pos covered (by decide))
  -- Dropping the front unit first leaves one less to drop behind it.
  have behind : (unit :: rest).drop step.length = rest.drop (step.length - 1) := by
    obtain ⟨more, same⟩ := Nat.exists_eq_add_of_le' covered
    rw [same]
    rfl
  rw [decodeFrom_eq _ policy _ nonempty read, moved, Utf16.drop_flatMap most, behind, Nat.add_mul]
  rfl

/-- Decoding bytes takes the steps of their units, and ends with the byte behind them.

An error in the units is met at their bytes. -/
theorem decodeFrom_utf16 (policy : ErrorPolicy) (offset : Nat) (units : List UInt16)
    {tail : List UInt8} (short : tail.length < 2) :
    (utf16 order).decodeFrom policy (offset * 2) (units.flatMap (Utf16.bytesOf order) ++ tail) =
      match Utf16.decodeFrom policy offset units with
      | ⟨text, some error⟩ => ⟨text, some (error.inBytes 2)⟩
      | ⟨text, none⟩ =>
        ((utf16 order).decodeFrom policy ((offset + units.length) * 2) tail).before text := by
  fun_induction Utf16.decodeFrom policy offset units with
  | case1 => simp [Progress.done, Progress.before]
  | case2 offset unit rest step fault refused =>
    rw [decodeFrom_flatMap_cons policy offset unit rest short rfl]
    simp only [step] at refused ⊢
    simp only [refused, Progress.stop]
  | case3 offset unit rest step code resolved ih =>
    obtain ⟨covered, most⟩ := Utf16.length_nextUnits unit rest
    -- The units of the step and those behind it are all there are.
    have places : offset + step.length + (rest.drop (step.length - 1)).length
        = offset + (unit :: rest).length := by
      simp only [List.length_drop, List.length_cons, step] at most ⊢
      omega
    rw [decodeFrom_flatMap_cons policy offset unit rest short rfl]
    simp only [step] at resolved ih places ⊢
    rw [places] at ih
    simp only [resolved, ih]
    -- The code point comes first in either case.
    cases Utf16.decodeFrom policy (offset + step.length) (rest.drop (step.length - 1)) with
    | mk text error => cases error <;> rfl

/-- A code point is encoded to the bytes of its units. -/
theorem encodeUnder_utf16 (order : Endian) (policy : ErrorPolicy) (code : CodePoint) :
    (utf16 order).encodeUnder policy code =
      (Utf16.unitsUnder policy code).map (List.flatMap (Utf16.bytesOf order)) := by
  have admitted : (utf16 order).admits policy code = !Utf16.isUnfit policy code := by
    simp [admits, carriesSurrogates, Utf16.isUnfit, ← UInt32.not_lt]
  rw [encodeUnder, admitted, Utf16.unitsUnder]
  cases unfit : Utf16.isUnfit policy code with
  | true =>
    -- The substitute is the character that units are replaced by as well.
    cases policy <;> simp [encodeChar, substitute, Utf16.encodeBytes, Except.map]
  | false =>
    have inside : code ≤ CodePoint.last := by
      rw [Utf16.isUnfit, Bool.or_eq_false_iff, decide_eq_false_iff_not] at unfit
      exact UInt32.not_lt.mp unfit.1
    obtain ⟨piece, written⟩ := Utf16.exists_units_of_le inside
    simp [encodeChar, Utf16.encodeBytes, written, Except.map]

/-- A text is encoded to the bytes of its units. -/
theorem encodeFrom_utf16 (order : Endian) (policy : ErrorPolicy) (index : Nat)
    (text : List CodePoint) : (utf16 order).encodeFrom policy index text =
      ⟨(Utf16.encodeFrom policy index text).output.flatMap (Utf16.bytesOf order),
        (Utf16.encodeFrom policy index text).error⟩ := by
  induction text generalizing index with
  | nil => rfl
  | cons code text ih =>
    rw [encodeFrom, Utf16.encodeFrom_cons, encodeUnder_utf16]
    -- What is written for the first code point comes first, in units and in bytes.
    cases Utf16.unitsUnder policy code with
    | error fault => rfl
    | ok written => simp [Except.map, ih, Progress.before]

end Charset

end UniText
