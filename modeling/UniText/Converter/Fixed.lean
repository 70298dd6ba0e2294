import UniText.Charset.Length
import UniText.Charset.Name
import UniText.Converter.Basic

/-! Conversions into a destination of fixed size, which tell the length that they need. -/

namespace UniText

/-- The outcome of writing into a destination of fixed size. -/
structure Written (α : Type) where
  /-- The destination after the call. -/
  dest : List α
  /-- The length of the whole result, whether or not it fits. -/
  length : Nat
  /-- Success, or why the destination is as it was. -/
  status : Status
  deriving DecidableEq, Repr

namespace Written

variable {α : Type}

/-- A call that failed leaves the destination alone and has no length to tell. -/
def failed (dest : List α) (fault : Fault) : Written α := ⟨dest, 0, .ofFault fault⟩

/-- Writes a result to the front of a destination, or nothing when it does not fit. -/
def fill (dest result : List α) : Written α :=
  -- A destination that is too short is told how long it would have to be.
  if dest.length < result.length then ⟨dest, result.length, .ofFault .bufferTooSmall⟩
  else ⟨result ++ dest.drop result.length, result.length, .success⟩

/-- Writes the outcome of a conversion. -/
def ofResult (dest : List α) : Except Fault (List α) → Written α
  | .ok result => fill dest result
  | .error fault => failed dest fault

/-- A destination keeps its size. -/
@[simp] theorem length_dest_ofResult (dest : List α) (result : Except Fault (List α)) :
    (ofResult dest result).dest.length = dest.length := by
  -- What is written covers as much as is dropped.
  cases result with
  | error fault => rfl
  | ok result =>
    simp only [ofResult, fill]
    split
    · rfl
    · simp
      omega

end Written

/-- The output of a conversion, or the reason for which it failed, without its place. -/
def Progress.outcome {α : Type} (progress : Progress α) : Except Fault (List α) :=
  progress.result.mapError CodecError.fault

namespace Converter

/-- Decodes a whole buffer into UTF-16, in which surrogates stand for themselves.

The converter is left at the start of a stream, unless the length argument is refused. -/
def decodeInto (converter : Converter) (dest : List UInt16) (bytes : List UInt8) (length : Int) :
    Written UInt16 × Converter :=
  match converter.charset.selectedLength bytes length with
  | .error fault => (.failed dest fault, converter)
  | .ok selected =>
    -- An unfinished stream is given up before the buffer is decoded.
    let decoded := (converter.reset.decode (bytes.take selected) true).1.outcome
    let units := decoded.bind fun text => (Utf16.encode .preserve text).outcome
    (.ofResult dest units, converter.reset)

/-- Encodes UTF-16, in which surrogates without a partner follow the converter's policy. -/
def encodeInto (converter : Converter) (dest : List UInt8) (units : List UInt16) (length : Int) :
    Written UInt8 :=
  .ofResult dest do
    let selected ← Utf16.selectedLength units length
    let text ← (Utf16.decode converter.policy (units.take selected)).outcome
    (converter.encode text).outcome

/-- Converts bytes of one charset to another, substituting what cannot be converted. -/
def convertInto (target source : String) (dest bytes : List UInt8) (length : Int) :
    Written UInt8 :=
  .ofResult dest do
    -- The source is looked up first, and its length argument last.
    let sourceCharset ← Charset.ofName source
    let targetCharset ← Charset.ofName target
    let selected ← sourceCharset.selectedLength bytes length
    let decoded := ((new sourceCharset .substitute).decode (bytes.take selected) true).1
    let text ← decoded.outcome
    ((new targetCharset .substitute).encode text).outcome

end Converter

end UniText
