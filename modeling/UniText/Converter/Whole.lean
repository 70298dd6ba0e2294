import UniText.Converter.Basic
import UniText.Text.Scalars

/-! Whole buffers through a converter: bytes to code points, UTF-16 units or strings, and back. -/

namespace UniText.Converter

/-- Decodes a whole buffer, leaving the converter at the start of a stream in any case. -/
def decodeWhole (converter : Converter) (bytes : List UInt8) :
    Except CodecError (List CodePoint) × Converter :=
  -- What an unfinished stream held does not leak into the buffer.
  ((converter.reset.decode bytes true).1.result, converter.reset)

/-- Decodes a whole buffer into UTF-16, in which surrogates stand for themselves. -/
def decodeUnits (converter : Converter) (bytes : List UInt8) :
    Except CodecError (List UInt16) × Converter :=
  let (decoded, after) := converter.decodeWhole bytes
  (decoded.bind fun text => (Utf16.encode .preserve text).result, after)

/-- Decodes a whole buffer into a string, which has no place for surrogates. -/
def decodeText (converter : Converter) (bytes : List UInt8) :
    Except CodecError String × Converter :=
  let (decoded, after) := converter.decodeWhole bytes
  (decoded.map textOf, after)

/-- Encodes code points. -/
def encodeWhole (converter : Converter) (text : List CodePoint) : Except CodecError (List UInt8) :=
  (converter.encode text).result

/-- Encodes UTF-16, in which surrogates without a partner follow the converter's policy. -/
def encodeUnits (converter : Converter) (units : List UInt16) : Except CodecError (List UInt8) :=
  (Utf16.decode converter.policy units).result.bind converter.encodeWhole

/-- Encodes a string. -/
def encodeText (converter : Converter) (text : String) : Except CodecError (List UInt8) :=
  converter.encodeWhole (codePoints text)

end UniText.Converter
