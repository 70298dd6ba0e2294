import UniText.Charset.Text

/-! Converters: decoding a stream that arrives in chunks, and encoding text. -/

namespace UniText

/-- A converter of one charset, which holds the bytes of a character that is not yet complete. -/
structure Converter where
  /-- The charset of the bytes. -/
  charset : Charset
  /-- What to do about ill-formed and unmappable input. -/
  policy : ErrorPolicy
  /-- The bytes of a character that waits for more. -/
  pending : List UInt8
  /-- The offset in the stream of the first byte that has not been decoded. -/
  position : Nat
  deriving DecidableEq, Repr

namespace Converter

/-- A converter at the start of a stream. -/
def new (charset : Charset) (policy : ErrorPolicy) : Converter := ⟨charset, policy, [], 0⟩

/-- The converter at the start of another stream. -/
def reset (converter : Converter) : Converter := new converter.charset converter.policy

/-- A converter at the start of a stream is left as it is. -/
@[simp] theorem reset_new (charset : Charset) (policy : ErrorPolicy) :
    (new charset policy).reset = new charset policy := rfl

/-- Part of a character is held. -/
def hasPending (converter : Converter) : Bool := !converter.pending.isEmpty

/-- The converter after a step, with other bytes held. -/
def move (converter : Converter) (step : Step) (pending : List UInt8) : Converter :=
  { converter with pending, position := converter.position + step.advance }

/-- The error that a fault in a step is reported as, at its place in the stream. -/
def errorAt (converter : Converter) (step : Step) (fault : Fault) : CodecError :=
  ⟨fault, converter.position, step.advance⟩

/-- Decodes the bytes of a chunk while no earlier byte is held.

A character that the chunk leaves incomplete is held, unless the stream ends here. -/
def decodeChunk (flush : Bool) (converter : Converter) :
    List UInt8 → Progress CodePoint × Converter
  | [] => (.done, converter)
  | byte :: rest =>
    let step := converter.charset.next (byte :: rest) flush
    -- At the end of the stream no step is incomplete.
    if step.decoded = .incomplete then (.done, { converter with pending := byte :: rest })
    else match step.decoded.resolve converter.policy with
      | .error fault => (.stop (converter.errorAt step fault), converter.move step [])
      | .ok code =>
        -- The front byte is used in any case, and the rest of the step after it.
        let (later, after) :=
          decodeChunk flush (converter.move step []) (rest.drop (step.advance - 1))
        (later.before [code], after)
termination_by bytes => bytes.length
decreasing_by
  simp only [List.length_drop, List.length_cons]
  omega

/-- Decodes held bytes together with the front of a chunk, then the rest of the chunk.

A step may cover fewer bytes than are held; the others are then looked at again. -/
def decodeHeld (flush : Bool) (converter : Converter) (chunk : List UInt8) :
    (held : List UInt8) → Progress CodePoint × Converter
  | [] => decodeChunk flush { converter with pending := [] } chunk
  | byte :: others =>
    -- The longest character that starts in the held bytes ends in this window.
    let window := byte :: others ++ chunk.take converter.charset.maxLength
    let atEnd := flush && chunk.length ≤ converter.charset.maxLength
    let step := converter.charset.next window atEnd
    if step.decoded = .incomplete then (.done, { converter with pending := window })
    else match step.decoded.resolve converter.policy with
      | .error fault => (.stop (converter.errorAt step fault), converter.move step [])
      | .ok code =>
        -- Once the held bytes are used up, the chunk can be decoded by itself.
        let (later, after) :=
          if (byte :: others).length ≤ step.advance then
            decodeChunk flush (converter.move step [])
              (chunk.drop (step.advance - (byte :: others).length))
          else decodeHeld flush (converter.move step []) chunk (others.drop (step.advance - 1))
        (later.before [code], after)
termination_by held => held.length
decreasing_by
  simp only [List.length_drop, List.length_cons]
  omega

/-- Decodes a chunk of a stream, of which it may be the end. -/
def decode (converter : Converter) (chunk : List UInt8) (flush : Bool) :
    Progress CodePoint × Converter :=
  decodeHeld flush converter chunk converter.pending

/-- Encodes a text, for which the converter keeps no state. -/
def encode (converter : Converter) (text : List CodePoint) : Progress UInt8 :=
  converter.charset.encode converter.policy text

/-- A converter written out with all that it holds. -/
def describe (converter : Converter) : String :=
  let pending := ", ".intercalate (converter.pending.map fun byte => toString byte.toNat)
  "UConverter \x7b encoding: \"" ++ converter.charset.name ++ "\", mode: " ++ converter.policy.name
    ++ ", pending: [" ++ pending ++ "], position: " ++ toString converter.position ++ " \x7d"

end Converter

end UniText
