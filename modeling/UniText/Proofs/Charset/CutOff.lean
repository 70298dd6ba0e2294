import UniText.Proofs.Charset.Units

/-! Units that are cut off at the end of the input: the whole units before them are decoded first. -/

namespace UniText

namespace Progress

variable {α : Type}

/-- One conversion and another one after it, which is not begun when the first one fails. -/
def followedBy (first later : Progress α) : Progress α :=
  match first.error with
  | some _ => first
  | none => later.before first.output

@[simp] theorem done_followedBy (later : Progress α) : done.followedBy later = later := rfl

@[simp] theorem stop_followedBy (error : CodecError) (later : Progress α) :
    (stop error).followedBy later = stop error := rfl

/-- What is written before the first conversion is written before both of them. -/
@[simp] theorem before_followedBy (written : List α) (first later : Progress α) :
    (first.before written).followedBy later = (first.followedBy later).before written := by
  obtain ⟨output, _ | error⟩ := first <;> simp [followedBy, before]

end Progress

namespace Charset

variable {charset : Charset}

/-- What a policy makes of the bytes of a unit that is cut off, if there are any. -/
def cutOffUnit (policy : ErrorPolicy) (offset : Nat) (tail : List UInt8) : Progress CodePoint :=
  if tail = [] then .done
  else match Decoded.truncated.resolve policy with
    | .error fault => .stop ⟨fault, offset, tail.length⟩
    | .ok code => ⟨[code], none⟩

/-- Bytes that are fewer than a unit are decoded as a unit that is cut off. -/
theorem decodeFrom_of_lt (policy : ErrorPolicy) (offset : Nat) {tail : List UInt8}
    (short : tail.length < charset.minLength) :
    charset.decodeFrom policy offset tail = cutOffUnit policy offset tail := by
  unfold cutOffUnit
  by_cases empty : tail = []
  · subst empty
    rw [decodeFrom, if_pos rfl]
  · have some_ := List.length_pos_iff.mpr empty
    have cut : charset.next tail true = ⟨.truncated, tail.length⟩ := by
      -- Only a unit of several bytes can be cut off.
      cases charset with
      | utf8 | usAscii | latin1 =>
        simp only [minLength] at short
        omega
      | utf16 order =>
        simp only [minLength] at short
        obtain ⟨byte, rfl⟩ := List.length_eq_one_iff.mp (show tail.length = 1 by omega)
        rfl
      | utf32 order => exact Utf32.next_short order short true
    have all : (⟨.truncated, tail.length⟩ : Step).advance = tail.length := Step.advance_eq some_
    rw [decodeFrom_eq charset policy offset empty cut, if_neg empty, all, List.drop_length,
      decodeFrom]
    simp only
    -- Nothing is left to be decoded behind the unit.
    cases Decoded.truncated.resolve policy <;> rfl

/-- The step at the front of whole units covers whole units, and bytes of one more make no
difference to it. -/
theorem next_append_of_lt {whole tail : List UInt8} (nonempty : whole ≠ [])
    (aligned : charset.minLength ∣ whole.length) (short : tail.length < charset.minLength) :
    charset.next (whole ++ tail) true = charset.next whole true ∧
      charset.minLength ∣ (charset.next whole true).length ∧
      (charset.next whole true).length ≤ whole.length := by
  obtain ⟨-, -, within⟩ := charset.streams.ending whole nonempty
  cases charset with
  | utf8 | usAscii | latin1 =>
    -- Nothing is shorter than a unit of one byte.
    obtain rfl : tail = [] := List.eq_nil_of_length_eq_zero (Nat.lt_one_iff.mp short)
    rw [List.append_nil]
    exact ⟨rfl, Nat.one_dvd _, within⟩
  | utf16 order =>
    obtain ⟨units, rfl⟩ := Utf16.exists_units_of_even order (Nat.mod_eq_zero_of_dvd aligned)
    cases units with
    | nil => exact absurd rfl nonempty
    | cons unit rest =>
      -- The step counts its units twice, with and without the byte behind them.
      have alone := @Utf16.next_flatMap order unit rest [] (by decide)
      rw [List.append_nil] at alone
      refine ⟨?_, ?_, within⟩
      · exact (Utf16.next_flatMap unit rest short).trans alone.symm
      · show 2 ∣ (Utf16.next order _ true).length
        rw [alone]
        exact Nat.dvd_mul_left ..
  | utf32 order =>
    -- A unit is a step of its own, whatever follows it.
    have four : 4 ≤ whole.length :=
      Nat.le_of_dvd (List.length_pos_iff.mpr nonempty) aligned
    have alone := Utf32.next_append order four [] true
    rw [List.append_nil] at alone
    refine ⟨?_, ?_, within⟩
    · exact (Utf32.next_append order four tail true).1.trans alone.1.symm
    · have unit : (Utf32.next order whole true).length = 4 := by rw [alone.1, alone.2.1]
      exact unit.symm ▸ Nat.dvd_refl 4

/-- Whole units are decoded first, and then the unit that is cut off behind them. -/
theorem decodeFrom_append_of_lt (policy : ErrorPolicy) (offset : Nat) {whole tail : List UInt8}
    (aligned : charset.minLength ∣ whole.length) (short : tail.length < charset.minLength) :
    charset.decodeFrom policy offset (whole ++ tail) =
      (charset.decodeFrom policy offset whole).followedBy
        (cutOffUnit policy (offset + whole.length) tail) := by
  -- Every step leaves fewer whole units behind it.
  induction size : whole.length using Nat.strongRecOn generalizing offset whole with
  | ind size ih =>
    subst size
    by_cases nonempty : whole = []
    · subst nonempty
      rw [List.nil_append, decodeFrom_of_lt policy offset short, decodeFrom,
        Progress.done_followedBy, List.length_nil, Nat.add_zero]
    · obtain ⟨same, units, within⟩ := next_append_of_lt nonempty aligned short
      have covered := (charset.streams.ending whole nonempty).2.1
      rw [decodeFrom_eq charset policy offset (List.append_ne_nil_of_left_ne_nil nonempty _) same,
        decodeFrom_eq charset policy offset nonempty rfl]
      split
      · -- An error at the front ends both conversions.
        exact (Progress.stop_followedBy ..).symm
      · -- What is left behind the step is made of whole units again.
        rw [Step.advance_eq covered, List.drop_append_of_le_length within]
        have behind : charset.minLength
            ∣ (whole.drop (charset.next whole true).length).length := by
          rw [List.length_drop]
          exact Nat.dvd_sub aligned units
        have fewer : (whole.drop (charset.next whole true).length).length < whole.length := by
          rw [List.length_drop]
          omega
        have places : offset + (charset.next whole true).length
            + (whole.drop (charset.next whole true).length).length = offset + whole.length := by
          rw [List.length_drop]
          omega
        rw [ih _ fewer _ behind rfl, places, Progress.before_followedBy]

end Charset

end UniText
