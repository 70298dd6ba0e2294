import Mathlib.Control.Monad.Basic
import UniText.Converter.Fixed
import UniText.Transcoder

/-! Destinations of fixed size: they get what a growing output holds, or are told its length. -/

namespace UniText

/-- The status under which a failed conversion is made known. -/
def CodecError.status (error : CodecError) : Status := error.diagnosis.status

/-- A failed conversion is made known by its fault, wherever it failed. -/
@[simp] theorem CodecError.status_eq (error : CodecError) :
    error.status = .ofFault error.fault := by
  -- The diagnosis of every fault carries the number of that fault.
  unfold status diagnosis
  cases error.fault <;> rfl

namespace Written

variable {α : Type}

/-- What a call leaves in its destination, and tells, about a result that is to be delivered. -/
structure Delivers (dest : List α) (result : Except Status (List α)) (written : Written α) :
    Prop where
  /-- A failure is told with no length, and the destination stays as it was. -/
  failed : ∀ status, result = .error status → written = ⟨dest, 0, status⟩
  /-- A result that does not fit is told by its length, and the destination stays as it was. -/
  short : ∀ output, result = .ok output → dest.length < output.length →
    written = ⟨dest, output.length, .ofFault .bufferTooSmall⟩
  /-- A result that fits stands at the front, and what is behind it stays as it was. -/
  fits : ∀ output, result = .ok output → output.length ≤ dest.length →
    written = ⟨output ++ dest.drop output.length, output.length, .success⟩

/-- What is written for a result delivers it. -/
theorem delivers_ofResult (dest : List α) (result : Except Fault (List α)) :
    Delivers dest (result.mapError .ofFault) (ofResult dest result) where
  -- Each of the three ways belongs to one kind of result, and the other kind is ruled out.
  failed status refused := by
    cases result with
    | error fault =>
      obtain rfl : .ofFault fault = status := Except.error.inj refused
      rfl
    | ok output => simp [Except.mapError] at refused
  short output found less := by
    cases result with
    | error fault => simp [Except.mapError] at found
    | ok given =>
      obtain rfl : given = output := Except.ok.inj found
      rw [ofResult, fill, if_pos less]
  fits output found enough := by
    cases result with
    | error fault => simp [Except.mapError] at found
    | ok given =>
      obtain rfl : given = output := Except.ok.inj found
      rw [ofResult, fill, if_neg (Nat.not_lt.mpr enough)]

/-- Only one thing can be told and left in the destination. -/
theorem Delivers.unique {dest : List α} {result : Except Status (List α)} {one other : Written α}
    (first : Delivers dest result one) (second : Delivers dest result other) : one = other := by
  cases result with
  | error status => rw [first.failed status rfl, second.failed status rfl]
  | ok output =>
    -- Either the output has room in the destination, or it has not.
    rcases Nat.lt_or_ge dest.length output.length with less | enough
    · rw [first.short output rfl less, second.short output rfl less]
    · rw [first.fits output rfl enough, second.fits output rfl enough]

/-- A result is delivered by just what is written for it. -/
theorem delivers_iff {dest : List α} {result : Except Fault (List α)} {written : Written α} :
    Delivers dest (result.mapError .ofFault) written ↔ written = ofResult dest result := by
  -- A result is delivered in one way only.
  constructor
  · intro delivers
    exact delivers.unique (delivers_ofResult dest result)
  · rintro rfl
    exact delivers_ofResult dest result

/-- A conversion is delivered by just what is written for its fault or its output. -/
theorem delivers_status_iff {dest : List α} {result : Except CodecError (List α)}
    {written : Written α} : Delivers dest (result.mapError CodecError.status) written ↔
      written = ofResult dest (result.mapError CodecError.fault) := by
  rw [← delivers_iff]
  -- A fault tells the same status whether or not it knows its place.
  cases result with
  | error error => simp only [Except.mapError, CodecError.status_eq]
  | ok output => rfl

end Written

/-- One conversion after another fails for the reason for which either of them does. -/
theorem Progress.bind_outcome {α β : Type} (first : Progress α) (next : List α → Progress β) :
    (first.outcome.bind fun between => (next between).outcome)
      = (first.result.bind fun between => (next between).result).mapError CodecError.fault := by
  -- Where an error was is forgotten before the second conversion or after it.
  unfold outcome
  cases first.result <;> rfl

namespace Converter

/-- Converters that differ at most in what they hold of a stream. -/
structure Alike (one other : Converter) : Prop where
  charset : one.charset = other.charset
  policy : one.policy = other.policy

variable {one other : Converter}

/-- Converters that differ in nothing else begin another stream alike. -/
theorem Alike.reset (alike : one.Alike other) : one.reset = other.reset := by
  simp only [Converter.reset, alike.charset, alike.policy]

/-- What a converter holds of a stream makes no difference to a whole buffer. -/
theorem Alike.decodeWhole (alike : one.Alike other) (bytes : List UInt8) :
    (one.decodeWhole bytes).1 = (other.decodeWhole bytes).1 := by
  simp only [Converter.decodeWhole, alike.reset]

/-- What a converter holds of a stream makes no difference to what it encodes. -/
theorem Alike.encodeWhole (alike : one.Alike other) : one.encodeWhole = other.encodeWhole := by
  funext text
  simp only [Converter.encodeWhole, encode, alike.charset, alike.policy]

variable {growing fixed : Converter} {length : Int} {count : Nat}

/-- Units are delivered as decoding the selected bytes into a growing output gives them. -/
theorem delivers_decodeInto (alike : growing.Alike fixed) {bytes : List UInt8}
    (selected : fixed.charset.selectedLength bytes length = .ok count) (dest : List UInt16) :
    Written.Delivers dest ((growing.decodeUnits (bytes.take count)).1.mapError CodecError.status)
      (fixed.decodeInto dest bytes length).1 := by
  rw [Written.delivers_status_iff, decodeInto, selected]
  -- Both decode the selected bytes from the start of a stream, and end one there.
  simp only [Progress.bind_outcome, decodeUnits, alike.decodeWhole]
  rfl

/-- Bytes are delivered as encoding the selected units into a growing output gives them. -/
theorem delivers_encodeInto (alike : growing.Alike fixed) {units : List UInt16}
    (selected : Utf16.selectedLength units length = .ok count) (dest : List UInt8) :
    Written.Delivers dest ((growing.encodeUnits (units.take count)).mapError CodecError.status)
      (fixed.encodeInto dest units length) := by
  rw [Written.delivers_status_iff, encodeInto, selected]
  -- With the units selected, what is left is to decode them and to encode what they stand for.
  show Written.ofResult dest ((Utf16.decode fixed.policy (units.take count)).outcome.bind
    fun text => (fixed.encode text).outcome) = _
  rw [Progress.bind_outcome, encodeUnits, alike.policy, alike.encodeWhole]
  rfl

/-- Bytes are delivered as transcoding the selected ones into a growing output gives them. -/
theorem delivers_convertInto {transcoder : Transcoder} {sourceName targetName : String}
    {source target : Charset} (isSource : Charset.ofName sourceName = .ok source)
    (isTarget : Charset.ofName targetName = .ok target)
    (reads : transcoder.source.Alike (.new source .substitute))
    (writes : transcoder.target.Alike (.new target .substitute)) {bytes : List UInt8}
    (selected : source.selectedLength bytes length = .ok count) (dest : List UInt8) :
    Written.Delivers dest ((transcoder.transcode (bytes.take count)).1.mapError CodecError.status)
      (convertInto targetName sourceName dest bytes length) := by
  -- Both names and the length argument are good, so that only the conversion can fail.
  have fixed : convertInto targetName sourceName dest bytes length
      = .ofResult dest (((new source .substitute).decode (bytes.take count) true).1.outcome.bind
          fun text => ((new target .substitute).encode text).outcome) := by
    simp only [convertInto, isSource, isTarget, bind, Except.bind, selected]
  rw [Written.delivers_status_iff, fixed, Progress.bind_outcome, Transcoder.transcode,
    writes.encodeWhole]
  simp only [reads.decodeWhole]
  rfl

/-- Calls with a destination of fixed size deliver what those with a growing output give.

Whatever a converter holds of a stream, the units of the selected bytes are those that it decodes
from them as a whole buffer, and the bytes of the selected units are those that it encodes them
to. Bytes of one charset become bytes of another as they do under substitution. -/
theorem fixed_delivers_growing :
    (∀ (growing fixed : Converter) (dest : List UInt16) (bytes : List UInt8) (length : Int)
        (count : Nat), growing.Alike fixed →
      fixed.charset.selectedLength bytes length = .ok count →
      Written.Delivers dest ((growing.decodeUnits (bytes.take count)).1.mapError CodecError.status)
        (fixed.decodeInto dest bytes length).1) ∧
    (∀ (growing fixed : Converter) (dest : List UInt8) (units : List UInt16) (length : Int)
        (count : Nat), growing.Alike fixed →
      Utf16.selectedLength units length = .ok count →
      Written.Delivers dest ((growing.encodeUnits (units.take count)).mapError CodecError.status)
        (fixed.encodeInto dest units length)) ∧
    ∀ (transcoder : Transcoder) (sourceName targetName : String) (source target : Charset)
        (dest bytes : List UInt8) (length : Int) (count : Nat),
      Charset.ofName sourceName = .ok source → Charset.ofName targetName = .ok target →
      transcoder.source.Alike (.new source .substitute) →
      transcoder.target.Alike (.new target .substitute) →
      source.selectedLength bytes length = .ok count →
      Written.Delivers dest
        ((transcoder.transcode (bytes.take count)).1.mapError CodecError.status)
        (convertInto targetName sourceName dest bytes length) := by
  -- The three conversions with a fixed destination are taken one by one.
  refine ⟨?_, ?_, ?_⟩
  · intro growing fixed dest bytes length count alike selected
    exact delivers_decodeInto alike selected dest
  · intro growing fixed dest units length count alike selected
    exact delivers_encodeInto alike selected dest
  · intro transcoder sourceName targetName source target dest bytes length count isSource isTarget
      reads writes selected
    exact delivers_convertInto isSource isTarget reads writes selected dest

/-- A face needs more room than there is, a letter has no byte, and an accent takes two units. -/
theorem fixed_delivers_growing_accent :
    let waiting : Converter := ⟨.utf8, .substitute, [0xE2], 7⟩
    (waiting.decodeInto [1, 2] [0x61, 0xF0, 0x9F, 0x98, 0x80, 0x00, 0x74] (-1)).1
        = ⟨[1, 2], 3, .ofFault .bufferTooSmall⟩ ∧
      (new .latin1 .strict).encodeInto [1] [0x3B1] 1 = ⟨[1], 0, .ofFault .unmappable⟩ ∧
      convertInto "UTF-16LE" "latin1" [1, 2, 3] [0xE9, 0x61] 1
        = ⟨[0xE9, 0x00, 3], 2, .success⟩ := by
  -- A destination is too short, a character is not held, and a destination is longer than needed.
  intro waiting
  obtain ⟨decoding, encoding, converting⟩ := fixed_delivers_growing
  refine ⟨?_, ?_, ?_⟩
  · exact (decoding (new .utf8 .substitute) waiting [1, 2]
      [0x61, 0xF0, 0x9F, 0x98, 0x80, 0x00, 0x74] (-1) 5 ⟨rfl, rfl⟩ (by decide +kernel)).short
      [0x61, 0xD83D, 0xDE00] (by decide +kernel) (by decide)
  · exact (encoding (new .latin1 .strict) (new .latin1 .strict) [1] [0x3B1] 1 1 ⟨rfl, rfl⟩
      (by decide +kernel)).failed _ (by decide +kernel)
  · exact (converting ⟨new .latin1 .substitute, new (.utf16 .little) .substitute⟩
      "latin1" "UTF-16LE" .latin1 (.utf16 .little) [1, 2, 3] [0xE9, 0x61] 1 1 (by decide +kernel)
      (by decide +kernel) ⟨rfl, rfl⟩ ⟨rfl, rfl⟩ (by decide +kernel)).fits [0xE9, 0x00]
      (by decide +kernel) (by decide)

end Converter

end UniText
