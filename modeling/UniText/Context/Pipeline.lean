import UniText.Charset.Name
import UniText.Converter.Fixed
import UniText.Normalize.Stream

/-! Pipelines: what becomes of the bytes that are fed to a handle. -/

namespace UniText

/-- A conversion of bytes to bytes that is carried on from chunk to chunk. -/
inductive Pipeline where
  /-- Decode with one converter, and encode with another. -/
  | converting (source target : Converter)
  /-- Decode, normalize, and encode with the same converter. -/
  | normalizing (codec : Converter) (stream : NormalizingStream)
  deriving DecidableEq, Repr

namespace Pipeline

/-- Runs a chunk through a pipeline, at the end of the stream or before it.

The pipeline afterwards has gone as far as the run did, even if that was not to the end. -/
def run (table : PropertyTable) (pipeline : Pipeline) (input : List UInt8) (flush : Bool) :
    Except Fault (List UInt8) × Pipeline :=
  match pipeline with
  | converting source target =>
    let (decoded, source) := source.decode input flush
    -- An encoder has no state, so that the target is as before.
    (decoded.outcome.bind fun text => (target.encode text).outcome, converting source target)
  | normalizing codec stream =>
    let (decoded, codec) := codec.decode input flush
    match decoded.outcome with
    | .error fault => (.error fault, normalizing codec stream)
    | .ok text =>
      match stream.pushOnto table [] text with
      | (.error fault, _, stream) => (.error fault, normalizing codec stream)
      | (.ok _, final, stream) =>
        -- At the end, the segment held back follows what has become final.
        let (final, stream) := if flush then stream.flushOnto table final else (final, stream)
        ((codec.encode final).outcome, normalizing codec stream)

/-- The pipeline at the start of another stream. -/
def reset : Pipeline → Pipeline
  | converting source target => converting source.reset target
  | normalizing codec stream => normalizing codec.reset stream.reset

end Pipeline

end UniText
