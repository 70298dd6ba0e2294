import UniText.Charset.Name
import UniText.Converter.Whole

/-! Transcoders: streams and buffers of one charset turned into another. -/

namespace UniText

/-- A converter to read with and one to write with. -/
structure Transcoder where
  /-- The converter of the incoming bytes. -/
  source : Converter
  /-- The converter of the outgoing bytes. -/
  target : Converter
  deriving DecidableEq, Repr

namespace Transcoder

/-- A transcoder between the charsets of two names. -/
def ofNames (source target : String) (policy : ErrorPolicy) : Except Fault Transcoder := do
  let sourceCharset ← Charset.ofName source
  let targetCharset ← Charset.ofName target
  return ⟨.new sourceCharset policy, .new targetCharset policy⟩

/-- Converts a whole buffer, leaving the transcoder at the start of a stream. -/
def transcode (transcoder : Transcoder) (bytes : List UInt8) :
    Except CodecError (List UInt8) × Transcoder :=
  let (decoded, source) := transcoder.source.decodeWhole bytes
  (decoded.bind transcoder.target.encodeWhole, { transcoder with source })

/-- Converts a chunk of a stream, as far as its characters are complete. -/
def feed (transcoder : Transcoder) (chunk : List UInt8) :
    Except CodecError (List UInt8) × Transcoder :=
  let (decoded, source) := transcoder.source.decode chunk false
  (decoded.result.bind transcoder.target.encodeWhole, { transcoder with source })

/-- Ends a stream: converts what is held, and goes back to the start in any case. -/
def finish (transcoder : Transcoder) : Except CodecError (List UInt8) × Transcoder :=
  let (decoded, source) := transcoder.source.decode [] true
  -- A character that is cut off is reported, and then forgotten.
  (decoded.result.bind transcoder.target.encodeWhole, { transcoder with source := source.reset })

end Transcoder

end UniText
