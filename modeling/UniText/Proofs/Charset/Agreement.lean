import UniText.Proofs.Charset.Units

/-! Code units convert as their bytes do, in UTF-16 and in UTF-32. -/

namespace UniText

/-- A conversion whose error was counted in units of some width, with it counted in bytes. -/
def Progress.inBytes {α : Type} (width : Nat) (progress : Progress α) : Progress α :=
  { progress with error := progress.error.map (CodecError.inBytes width) }

namespace Charset

variable {order : Endian} {policy : ErrorPolicy}

/-- Decoding the bytes of units goes on one unit after the other, and fails where the units do. -/
theorem decodeFrom_utf32 (index : Nat) (units : List UInt32) :
    (utf32 order).decodeFrom policy (index * 4) (units.flatMap (Utf32.bytesOf order))
      = (Utf32.decodeFrom policy index units).inBytes 4 := by
  -- Every unit takes four bytes, so that four times its index is where its bytes are.
  induction units generalizing index with
  | nil => simp [decodeFrom, Utf32.decodeFrom, Progress.done, Progress.inBytes]
  | cons unit units ih =>
    have size : (Utf32.bytesOf order unit).length = 4 := order.length_write 4 unit.toNat
    have read : (utf32 order).next
        (Utf32.bytesOf order unit ++ units.flatMap (Utf32.bytesOf order)) true
        = ⟨Utf32.classify unit, 4⟩ := Utf32.next_bytesOf order unit _
    have nonempty : Utf32.bytesOf order unit ++ units.flatMap (Utf32.bytesOf order) ≠ [] := by
      rw [← List.length_pos_iff, List.length_append, size]
      omega
    have moved : (⟨Utf32.classify unit, 4⟩ : Step).advance = 4 := rfl
    rw [List.flatMap_cons, decodeFrom_eq _ policy _ nonempty read, moved, List.drop_left' size,
      ← Nat.succ_mul, ih, Utf32.decodeFrom]
    cases (Utf32.classify unit).resolve policy with
    | error fault => simp [Progress.stop, Progress.inBytes, CodecError.inBytes]
    | ok code => rfl

/-- Units convert as their bytes do, with the same output and with the same error in its place.

An error is met in bytes where it is met in units, and covers the bytes of those that it covers. -/
theorem bytes_agree_with_units (order : Endian) (policy : ErrorPolicy) :
    (∀ units : List UInt16, (utf16 order).decode policy (units.flatMap (Utf16.bytesOf order))
      = (Utf16.decode policy units).inBytes 2) ∧
    (∀ text : List CodePoint, (utf16 order).encode policy text
      = ⟨(Utf16.encode policy text).output.flatMap (Utf16.bytesOf order),
        (Utf16.encode policy text).error⟩) ∧
    (∀ units : List UInt32, (utf32 order).decode policy (units.flatMap (Utf32.bytesOf order))
      = (Utf32.decode policy units).inBytes 4) := by
  refine ⟨?_, encodeFrom_utf16 order policy 0, decodeFrom_utf32 0⟩
  intro units
  have decoded := @decodeFrom_utf16 order policy 0 units [] (by decide)
  rw [Nat.zero_mul, List.append_nil] at decoded
  rw [decode, decoded, Utf16.decode]
  -- Behind the last unit no byte is left to be decoded.
  cases Utf16.decodeFrom policy 0 units with
  | mk text error =>
    cases error with
    | none => simp [decodeFrom, Progress.done, Progress.before, Progress.inBytes]
    | some error => rfl

end Charset

end UniText
