import UniText.Charset.Step

/-! Charsets in which one byte is one character, with the value of its code point. -/

namespace UniText.SingleByte

/-- Reads the byte at the front, which must not exceed the last code point of the charset. -/
def next (limit : Nat) (bytes : List UInt8) (atEnd : Bool) : Step :=
  match bytes with
  | [] => Step.cutOff atEnd 0
  -- One byte decides the step, whatever comes after it.
  | byte :: _ => if byte.toNat ≤ limit then ⟨.scalar byte.toUInt32, 1⟩ else ⟨.illegal, 1⟩

/-- The byte of a code point, which must not exceed the last one of the charset. -/
def encode (limit : Nat) (code : CodePoint) : Except Fault (List UInt8) :=
  if code.toNat ≤ limit then .ok [code.toUInt8] else .error .unmappable

end UniText.SingleByte
