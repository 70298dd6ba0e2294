import UniText.Charset.Endian
import UniText.Charset.Progress
import UniText.Charset.Step

/-! UTF-32: code points as single units of thirty-two bits, and units as bytes. -/

namespace UniText.Utf32

/-- What one unit stands for. -/
def classify (unit : UInt32) : Decoded :=
  if CodePoint.last < unit then .illegal
  else if CodePoint.isSurrogate unit then .surrogate unit
  else .scalar unit

/-- Decodes units, of which the first has a given index. -/
def decodeFrom (policy : ErrorPolicy) (index : Nat) : List UInt32 → Progress CodePoint
  | [] => .done
  | unit :: rest =>
    match (classify unit).resolve policy with
    | .error fault => .stop ⟨fault, index, 1⟩
    | .ok code => (decodeFrom policy (index + 1) rest).before [code]

/-- Decodes units into code points. -/
def decode (policy : ErrorPolicy) (units : List UInt32) : Progress CodePoint :=
  decodeFrom policy 0 units

/-- Reads the character at the front of some bytes. -/
def next (order : Endian) (bytes : List UInt8) (atEnd : Bool) : Step :=
  -- Every character takes four bytes, so the unit alone decides.
  match bytes with
  | first :: second :: third :: fourth :: _ =>
    ⟨classify (UInt32.ofNat (order.read [first, second, third, fourth])), 4⟩
  | _ => Step.cutOff atEnd bytes.length

/-- The bytes of a value in the code space, in which surrogates stand for themselves. -/
def encodeBytes (order : Endian) (code : CodePoint) : Except Fault (List UInt8) :=
  if CodePoint.last < code then .error .illegalSequence
  else .ok (order.write 4 code.toNat)

end UniText.Utf32
