import UniText.Charset.Basic
import UniText.Charset.SingleByte
import UniText.Charset.Utf16
import UniText.Charset.Utf32
import UniText.Charset.Utf8

/-! Reading and writing one character in any charset. -/

namespace UniText.Charset

/-- Reads the character at the front of some bytes. -/
def next : Charset → List UInt8 → (atEnd : Bool) → Step
  | utf8 => Utf8.next
  | utf16 order => Utf16.next order
  | utf32 order => Utf32.next order
  | usAscii => SingleByte.next 0x7F
  | latin1 => SingleByte.next 0xFF

/-- The bytes of a code point, whatever the policy. -/
def encodeChar : Charset → CodePoint → Except Fault (List UInt8)
  | utf8 => Utf8.encode
  | utf16 order => Utf16.encodeBytes order
  | utf32 order => Utf32.encodeBytes order
  | usAscii => SingleByte.encode 0x7F
  | latin1 => SingleByte.encode 0xFF

/-- A policy admits a value that is a scalar, or a surrogate that is to be kept and can be. -/
def admits (charset : Charset) (policy : ErrorPolicy) (code : CodePoint) : Bool :=
  code ≤ CodePoint.last &&
    (!CodePoint.isSurrogate code || (policy = .preserve && charset.carriesSurrogates))

/-- The bytes of a code point under a policy. -/
def encodeUnder (charset : Charset) (policy : ErrorPolicy) (code : CodePoint) :
    Except Fault (List UInt8) :=
  -- A value that is not admitted is ill-formed in every charset.
  let attempt :=
    if charset.admits policy code then charset.encodeChar code else .error .illegalSequence
  match attempt with
  | .ok bytes => .ok bytes
  | .error fault =>
    if policy = .strict then .error fault else charset.encodeChar charset.substitute

/-- Every byte is covered by a step that finds a scalar value. -/
def allScalars (charset : Charset) (bytes : List UInt8) : Bool :=
  match bytes with
  | [] => true
  | byte :: rest =>
    let step := charset.next (byte :: rest) true
    -- The front byte is used in any case, so that the check ends.
    match step.decoded with
    | .scalar _ => charset.allScalars (rest.drop (step.length - 1))
    | _ => false
termination_by bytes.length
decreasing_by
  simp only [List.length_drop, List.length_cons]
  omega

/-- Some bytes are well-formed text in a charset. -/
def isValid (charset : Charset) (bytes : List UInt8) : Bool :=
  -- Where the charset has a shorter description of its texts, that one is used.
  match charset with
  | utf8 => Utf8.wellFormed bytes
  | usAscii => bytes.all fun byte => byte < 0x80
  | latin1 => true
  | utf16 _ | utf32 _ => charset.allScalars bytes

end UniText.Charset
