import Mathlib.Data.Nat.Bitwise
import UniText.Charset.Endian
import UniText.Property.Checksum

/-! The checksum tells bytes apart that differ in a window of four, whatever surrounds it. -/

namespace UniText

/-- Up to four bytes spell a number of thirty-two bits. -/
theorem Endian.ofLittle_lt_word {bytes : List UInt8} (short : bytes.length ≤ 4) :
    ofLittle bytes < 2 ^ 32 := by
  -- Four bytes have just the room of a word.
  have most : capacity bytes.length ≤ 2 ^ 32 := by
    match bytes.length, short with
    | 0, _ | 1, _ | 2, _ | 3, _ | 4, _ => decide
  exact Nat.lt_of_lt_of_le (ofLittle_lt bytes) most

namespace Crc32

/-- Moving on by one bit goes along with exclusive or. -/
theorem shiftBit_xor (one other : UInt32) :
    shiftBit (one ^^^ other) = shiftBit one ^^^ shiftBit other := by
  have half : (one ^^^ other) / 2 = one / 2 ^^^ other / 2 := by
    simp only [← UInt32.toNat_inj, UInt32.toNat_div, UInt32.toNat_xor, UInt32.toNat_ofNat]
    exact Nat.xor_div_two
  have odd : (one ^^^ other) % 2 = 1 ↔ ¬(one % 2 = 1 ↔ other % 2 = 1) := by
    simp only [← UInt32.toNat_inj, UInt32.toNat_mod, UInt32.toNat_xor, UInt32.toNat_ofNat]
    exact Nat.xor_mod_two_eq_one
  -- The divisor is taken away where one of the two has lost a bit, and twice where both have.
  by_cases first : one % 2 = 1 <;> by_cases second : other % 2 = 1 <;>
    simp only [shiftBit, odd, half, first, second, if_true, if_false, iff_self, not_true,
      not_false_iff, iff_true, iff_false]
  · rw [UInt32.xor_assoc, ← UInt32.xor_assoc polynomial, UInt32.xor_comm polynomial,
      UInt32.xor_assoc, UInt32.xor_self, UInt32.xor_zero]
  · rw [UInt32.xor_assoc, UInt32.xor_assoc, UInt32.xor_comm polynomial]
  · rw [UInt32.xor_assoc]

/-- Only the remainder zero is moved on to zero, since the divisor has the highest bit. -/
theorem eq_zero_of_shiftBit {remainder : UInt32} (zero : shiftBit remainder = 0) :
    remainder = 0 := by
  unfold shiftBit at zero
  split at zero
  · -- Half of a remainder is less than the divisor.
    have same : remainder / 2 = polynomial := UInt32.xor_eq_zero_iff.mp zero
    have small := remainder.toNat_lt
    have half : remainder.toNat / 2 = 0xEDB88320 := by
      rw [← UInt32.toNat_inj, UInt32.toNat_div] at same
      exact same
    omega
  · next even =>
    -- An even number with nothing in its half is zero.
    have none : remainder.toNat / 2 = 0 := by
      rw [← UInt32.toNat_inj, UInt32.toNat_div] at zero
      exact zero
    have low : remainder.toNat % 2 ≠ 1 := by
      rw [← UInt32.toNat_inj, UInt32.toNat_mod] at even
      exact even
    rw [← UInt32.toNat_inj, UInt32.toNat_zero]
    omega

/-- Different remainders are moved on to different ones. -/
theorem shiftBit_injective : Function.Injective shiftBit := by
  intro one other same
  -- Their difference would be moved on to zero.
  rw [← UInt32.xor_eq_zero_iff] at same ⊢
  exact eq_zero_of_shiftBit (by rw [shiftBit_xor, same])

/-- Moving on by some bits goes along with exclusive or. -/
theorem shiftBits_xor (count : Nat) (one other : UInt32) :
    shiftBits count (one ^^^ other) = shiftBits count one ^^^ shiftBits count other := by
  -- Each single shift goes over to both sides.
  induction count generalizing one other with
  | zero => rfl
  | succ count ih => rw [shiftBits, shiftBit_xor, ih, shiftBits, shiftBits]

/-- Different remainders stay different however far they are moved on. -/
theorem shiftBits_injective (count : Nat) : Function.Injective (shiftBits count) := by
  -- None of the single shifts loses anything.
  induction count with
  | zero => exact Function.injective_id
  | succ count ih => exact ih.comp shiftBit_injective

/-- Moving on by some bits and then by others is moving on by all of them. -/
theorem shiftBits_add (first second : Nat) (remainder : UInt32) :
    shiftBits (first + second) remainder = shiftBits second (shiftBits first remainder) := by
  -- The first shifts come before the second ones.
  induction first generalizing remainder with
  | zero => rw [Nat.zero_add, shiftBits]
  | succ first ih => rw [Nat.add_right_comm, shiftBits, ih, shiftBits]

/-- A number whose lowest bits are zero only loses these. -/
theorem shiftBits_ofNat {count number : Nat} (fits : 2 ^ count * number < 2 ^ 32) :
    shiftBits count (UInt32.ofNat (2 ^ count * number)) = UInt32.ofNat number := by
  induction count with
  | zero => simp [shiftBits]
  | succ count ih =>
    rw [Nat.pow_succ, Nat.mul_right_comm] at fits ⊢
    have value : (UInt32.ofNat (2 ^ count * number * 2)).toNat = 2 ^ count * number * 2 := by
      rw [UInt32.toNat_ofNat', Nat.mod_eq_of_lt fits]
    have small : (UInt32.ofNat (2 ^ count * number)).toNat = 2 ^ count * number := by
      rw [UInt32.toNat_ofNat', Nat.mod_eq_of_lt (by omega)]
    -- The bit that falls out is zero, so that the divisor is not taken away.
    have even : ¬UInt32.ofNat (2 ^ count * number * 2) % 2 = 1 := by
      rw [← UInt32.toNat_inj, UInt32.toNat_mod, value]
      simp
    have half : UInt32.ofNat (2 ^ count * number * 2) / 2 = UInt32.ofNat (2 ^ count * number) := by
      rw [← UInt32.toNat_inj, UInt32.toNat_div, value, small]
      simp
    rw [shiftBits, shiftBit, if_neg even, half]
    exact ih (by omega)

/-- A byte and a number behind it share no bits. -/
theorem add_mul_eq_xor {byte : Nat} (small : byte < 2 ^ 8) (number : Nat) :
    byte + 2 ^ 8 * number = byte ^^^ 2 ^ 8 * number := by
  -- The byte and the multiple of 256 have no bit in common.
  have high : (byte ^^^ 2 ^ 8 * number) / 2 ^ 8 = number := by
    rw [Nat.xor_div_two_pow, Nat.div_eq_of_lt small, Nat.mul_div_cancel_left _ (by decide),
      Nat.zero_xor]
  have low : (byte ^^^ 2 ^ 8 * number) % 2 ^ 8 = byte := by
    rw [Nat.xor_mod_two_pow, Nat.mod_eq_of_lt small, Nat.mul_mod_right, Nat.xor_zero]
  have whole := Nat.div_add_mod (byte ^^^ 2 ^ 8 * number) (2 ^ 8)
  rw [high, low] at whole
  rw [← whole, Nat.add_comm]

/-- A window of up to four bytes is taken in as the number that it spells, all at once. -/
theorem foldl_update_window {window : List UInt8} (short : window.length ≤ 4) (remainder : UInt32) :
    window.foldl update remainder = shiftBits (8 * window.length)
      (remainder ^^^ UInt32.ofNat (Endian.ofLittle window)) := by
  induction window generalizing remainder with
  | nil => simp [shiftBits, Endian.ofLittle]
  | cons byte window ih =>
    -- The bytes behind the first one have to wait for eight bits.
    have whole : Endian.ofLittle (byte :: window) < 2 ^ 32 := Endian.ofLittle_lt_word short
    have fits : 2 ^ 8 * Endian.ofLittle window < 2 ^ 32 :=
      Nat.lt_of_le_of_lt (Nat.le_add_left ..) whole
    have later : UInt32.ofNat (Endian.ofLittle window)
        = shiftBits 8 (UInt32.ofNat (2 ^ 8 * Endian.ofLittle window)) :=
      (shiftBits_ofNat fits).symm
    have together : UInt32.ofNat (Endian.ofLittle (byte :: window))
        = byte.toUInt32 ^^^ UInt32.ofNat (2 ^ 8 * Endian.ofLittle window) := by
      rw [Endian.ofLittle, show (0x100 : Nat) = 2 ^ 8 from rfl, add_mul_eq_xor byte.toNat_lt]
      simp
    rw [List.foldl_cons, ih (Nat.le_of_succ_le short), later, update, ← shiftBits_xor,
      ← shiftBits_add, UInt32.xor_assoc, ← together, List.length_cons, Nat.mul_add, Nat.add_comm]

/-- Taking in the same bytes keeps different remainders apart. -/
theorem foldl_update_injective (bytes : List UInt8) :
    Function.Injective fun remainder => bytes.foldl update remainder := by
  -- Each byte is added to the register before it is shifted, and neither step loses anything.
  induction bytes with
  | nil => exact Function.injective_id
  | cons byte bytes ih =>
    intro one other same
    have next := shiftBits_injective 8 (ih same)
    exact (UInt32.xor_left_inj _).mp next

/-- Different windows of up to four bytes are told apart from any remainder. -/
theorem eq_of_foldl_update_eq {window other : List UInt8} (short : window.length ≤ 4)
    (length : other.length = window.length) {remainder : UInt32}
    (same : window.foldl update remainder = other.foldl update remainder) : window = other := by
  rw [foldl_update_window short, foldl_update_window (length ▸ short), length] at same
  -- The numbers that the windows spell are the same, and they fit.
  have spelt := (UInt32.xor_right_inj _).mp (shiftBits_injective _ same)
  rw [← UInt32.toNat_inj, UInt32.toNat_ofNat', UInt32.toNat_ofNat',
    Nat.mod_eq_of_lt (Endian.ofLittle_lt_word short),
    Nat.mod_eq_of_lt (Endian.ofLittle_lt_word (length ▸ short))] at spelt
  rw [← Endian.toLittle_ofLittle window, ← Endian.toLittle_ofLittle other, spelt, length]

/-- Bytes that differ in a window of up to four have different checksums. -/
theorem checksum_ne {window other : List UInt8} (short : window.length ≤ 4)
    (length : other.length = window.length) (differ : other ≠ window) (before after : List UInt8) :
    checksum (before ++ other ++ after) ≠ checksum (before ++ window ++ after) := by
  intro same
  simp only [checksum, List.foldl_append, UInt32.xor_left_inj] at same
  -- The bytes behind the window keep apart what the window has told apart.
  have inside := foldl_update_injective after same
  exact differ (eq_of_foldl_update_eq short length inside.symm).symm

end Crc32

end UniText
