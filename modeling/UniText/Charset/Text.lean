import UniText.Charset.Codec

/-! Whole texts: decoding all bytes of a buffer, and encoding all code points of a text. -/

namespace UniText.Charset

/-- Decodes bytes from a given offset on. -/
def decodeFrom (charset : Charset) (policy : ErrorPolicy) (offset : Nat) :
    List UInt8 → Progress CodePoint
  | [] => .done
  | byte :: rest =>
    let step := charset.next (byte :: rest) true
    match step.decoded.resolve policy with
    | .error fault => .stop ⟨fault, offset, step.advance⟩
    | .ok code =>
      -- The front byte is used in any case, and the rest of the step after it.
      (charset.decodeFrom policy (offset + step.advance) (rest.drop (step.advance - 1))).before
        [code]
termination_by bytes => bytes.length
decreasing_by
  simp only [List.length_drop, List.length_cons]
  omega

/-- Decodes a whole buffer into code points. -/
def decode (charset : Charset) (policy : ErrorPolicy) (bytes : List UInt8) : Progress CodePoint :=
  charset.decodeFrom policy 0 bytes

/-- Encodes code points, of which the first has a given index. -/
def encodeFrom (charset : Charset) (policy : ErrorPolicy) (index : Nat) :
    List CodePoint → Progress UInt8
  | [] => .done
  | code :: rest =>
    match charset.encodeUnder policy code with
    | .error fault => .stop ⟨fault, index, 1⟩
    | .ok bytes => (charset.encodeFrom policy (index + 1) rest).before bytes

/-- Encodes a whole text into bytes. -/
def encode (charset : Charset) (policy : ErrorPolicy) (text : List CodePoint) : Progress UInt8 :=
  charset.encodeFrom policy 0 text

end UniText.Charset
