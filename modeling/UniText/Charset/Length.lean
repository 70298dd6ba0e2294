import UniText.Charset.Basic

/-! Length arguments, which may ask to stop at the first zero code unit. -/

namespace UniText

/-- A length argument: minus one asks for the part before the terminator. -/
def resolveLength (total : Nat) (terminated : Nat) (length : Int) : Except Fault Nat :=
  -- Any other length has to lie within the input.
  if length = -1 then .ok terminated
  else if 0 ≤ length ∧ length ≤ total then .ok length.toNat
  else .error .illegalArgument

namespace Charset

/-- The bytes before the first zero unit, counted from a given offset.

Without one, these are the whole units of the input, and bytes of a last unit that is cut off do
not count. -/
def terminatedFrom (charset : Charset) (offset : Nat) : List UInt8 → Nat
  | [] => offset
  | byte :: rest =>
    let unit := (byte :: rest).take charset.minLength
    -- Zero bytes in different units are no terminator.
    if unit.length < charset.minLength || unit.all (· = 0) then offset
    else charset.terminatedFrom (offset + charset.minLength) (rest.drop (charset.minLength - 1))
termination_by bytes => bytes.length
decreasing_by
  simp only [List.length_drop, List.length_cons]
  omega

/-- The length of the part of some bytes that a zero unit ends. -/
def terminatedLength (charset : Charset) (bytes : List UInt8) : Nat :=
  charset.terminatedFrom 0 bytes

/-- The number of bytes that a length argument selects. -/
def selectedLength (charset : Charset) (bytes : List UInt8) (length : Int) : Except Fault Nat :=
  resolveLength bytes.length (charset.terminatedLength bytes) length

end Charset

namespace Utf16

/-- The number of units that a length argument selects. -/
def selectedLength (units : List UInt16) (length : Int) : Except Fault Nat :=
  resolveLength units.length (units.takeWhile (· ≠ 0)).length length

end Utf16

end UniText
