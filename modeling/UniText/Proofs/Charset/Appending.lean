import UniText.Charset.Text

/-! Encoding at the end of a buffer: a character adds its bytes, and one that is refused adds none. -/

namespace UniText

/-- A writer to the end of a buffer, which keeps what has been written even if it fails. -/
abbrev Appending := ExceptT Fault (StateM (List UInt8))

namespace Appending

variable {α : Type}

/-- Puts bytes at the end of the buffer. -/
def push (bytes : List UInt8) : Appending Unit := modify (· ++ bytes)

/-- What a writer answers, and the buffer as it leaves it. -/
def outcome (writer : Appending α) (buffer : List UInt8) : Except Fault α × List UInt8 :=
  StateT.run (ExceptT.run writer) buffer

/-- Nothing is written by an answer. -/
@[simp] theorem outcome_pure (value : α) (buffer : List UInt8) :
    outcome (pure value) buffer = (.ok value, buffer) := rfl

/-- What is written next comes behind the bytes that are put into the buffer. -/
@[simp] theorem outcome_push_bind (bytes : List UInt8) (next : Unit → Appending α)
    (buffer : List UInt8) :
    outcome (push bytes >>= next) buffer = outcome (next ()) (buffer ++ bytes) := rfl

/-- A failure is dealt with on the buffer that the attempt leaves, which nothing puts back. -/
theorem outcome_tryCatch (attempt : Appending α) (handler : Fault → Appending α)
    (buffer : List UInt8) :
    outcome (tryCatch attempt handler) buffer = match (outcome attempt buffer).1 with
      | .ok value => (.ok value, (outcome attempt buffer).2)
      | .error fault => outcome (handler fault) (outcome attempt buffer).2 := by
  -- The handler is run or not, as the answer of the attempt tells.
  show StateT.run (ExceptT.run (tryCatch attempt handler)) buffer = _
  rw [ExceptT.run_tryCatch, StateT.run_bind]
  rcases found : outcome attempt buffer with ⟨fault | value, longer⟩
  · rw [show (ExceptT.run attempt).run buffer = _ from found]
    rfl
  · rw [show (ExceptT.run attempt).run buffer = _ from found]
    rfl

/-- What a writer leaves that adds the bytes of an encoding and tells their number, or else only
passes on why there are none. -/
def adding (encoded : Except Fault (List UInt8)) (buffer : List UInt8) :
    Except Fault Nat × List UInt8 :=
  match encoded with
  | .ok bytes => (.ok bytes.length, buffer ++ bytes)
  | .error fault => (.error fault, buffer)

end Appending

open Appending

/-- Writes the bytes of a code point in UTF-8. -/
def Utf8.append (code : CodePoint) : Appending Nat :=
  let bits := code.toNat
  match length? code with
  | none => throw .illegalSequence
  | some 1 => do
    push [UInt8.ofNat bits]
    return 1
  | some 2 => do
    push [UInt8.ofNat (0xC0 + bits / 0x40), trailOf bits]
    return 2
  | some 3 => do
    push [UInt8.ofNat (0xE0 + bits / 0x1000), trailOf (bits / 0x40), trailOf bits]
    return 3
  | some length => do
    push [UInt8.ofNat (0xF0 + bits / 0x40000), trailOf (bits / 0x1000), trailOf (bits / 0x40),
      trailOf bits]
    return length

/-- Writes the one or two units of a code point in UTF-16, each by itself. -/
def Utf16.append (order : Endian) (code : CodePoint) : Appending Nat :=
  if code ≤ 0xFFFF then do
    push (bytesOf order code.toUInt16)
    return 2
  else if code ≤ CodePoint.last then do
    -- The lead is in the buffer before the trail is written.
    push (bytesOf order (leadOf code))
    push (bytesOf order (trailOf code))
    return 4
  else throw .illegalSequence

/-- Writes the unit of a code point in UTF-32. -/
def Utf32.append (order : Endian) (code : CodePoint) : Appending Nat :=
  if CodePoint.last < code then throw .illegalSequence
  else do
    push (order.write 4 code.toNat)
    return 4

/-- Writes the byte of a code point that does not exceed the last one of the charset. -/
def SingleByte.append (limit : Nat) (code : CodePoint) : Appending Nat :=
  if code.toNat ≤ limit then do
    push [code.toUInt8]
    return 1
  else throw .unmappable

/-- A code point adds its bytes in UTF-8, or none. -/
theorem Utf8.outcome_append (code : CodePoint) (buffer : List UInt8) :
    (Utf8.append code).outcome buffer = adding (Utf8.encode code) buffer := by
  -- No code point takes more than four bytes, which are all written at once.
  have few (length : Nat) (found : length? code = some length) :
      length = 1 ∨ length = 2 ∨ length = 3 ∨ length = 4 := by
    unfold length? at found
    grind
  rw [Utf8.append, Utf8.encode]
  cases found : length? code with
  | none => rfl
  | some length =>
    rcases few length found with rfl | rfl | rfl | rfl
    all_goals rfl

/-- A code point adds its units in UTF-16, or none. -/
theorem Utf16.outcome_append (order : Endian) (code : CodePoint) (buffer : List UInt8) :
    (Utf16.append order code).outcome buffer = adding (Utf16.encodeBytes order code) buffer := by
  have two (unit : UInt16) : (bytesOf order unit).length = 2 := Endian.length_write ..
  rw [Utf16.append, Utf16.encodeBytes, Utf16.units]
  split
  · simp only [outcome_push_bind, outcome_pure, Except.map, adding, List.flatMap_cons,
      List.flatMap_nil, List.append_nil, two]
  · split
    · -- Both units of a pair are in the buffer before the answer is given.
      simp only [outcome_push_bind, outcome_pure, Except.map, adding, List.flatMap_cons,
        List.flatMap_nil, List.append_nil, List.length_append, two, List.append_assoc]
    · rfl

/-- A code point adds its byte in a charset of single bytes, or none. -/
theorem SingleByte.outcome_append (limit : Nat) (code : CodePoint) (buffer : List UInt8) :
    (SingleByte.append limit code).outcome buffer
      = adding (SingleByte.encode limit code) buffer := by
  -- The byte is written after the limit has been looked at.
  rw [SingleByte.append, SingleByte.encode]
  split <;> rfl

namespace Charset

/-- Writes a code point, whatever the policy. -/
def append : Charset → CodePoint → Appending Nat
  | utf8 => Utf8.append
  | utf16 order => Utf16.append order
  | utf32 order => Utf32.append order
  | usAscii => SingleByte.append 0x7F
  | latin1 => SingleByte.append 0xFF

/-- Writes a code point under a policy. -/
def appendUnder (charset : Charset) (policy : ErrorPolicy) (code : CodePoint) : Appending Nat :=
  tryCatch
    (if charset.admits policy code then charset.append code else throw .illegalSequence)
    fun fault =>
      -- The substitute is written behind whatever the attempt has left.
      if policy = .strict then throw fault else charset.append charset.substitute

/-- Writes code points, of which the first has a given index, up to the first that is refused. -/
def appendFrom (charset : Charset) (policy : ErrorPolicy) (index : Nat) :
    List CodePoint → List UInt8 → Option CodecError × List UInt8
  | [], buffer => (none, buffer)
  | code :: rest, buffer =>
    match (charset.appendUnder policy code).outcome buffer with
    | (.ok _, longer) => charset.appendFrom policy (index + 1) rest longer
    | (.error fault, longer) => (some ⟨fault, index, 1⟩, longer)

/-- Writes a whole text, and tells by how many bytes that makes the buffer longer. -/
def appendText (charset : Charset) (policy : ErrorPolicy) (text : List CodePoint)
    (buffer : List UInt8) : Except CodecError Nat × List UInt8 :=
  match charset.appendFrom policy 0 text buffer with
  | (none, longer) => (.ok (longer.length - buffer.length), longer)
  | (some error, longer) => (.error error, longer)

variable {charset : Charset} {policy : ErrorPolicy}

/-- A code point adds its bytes to the buffer, and none of them if it is refused. -/
theorem outcome_append (charset : Charset) (code : CodePoint) (buffer : List UInt8) :
    (charset.append code).outcome buffer = adding (charset.encodeChar code) buffer := by
  -- Every charset decides whether it refuses a code point before it writes anything.
  cases charset with
  | utf8 => exact Utf8.outcome_append code buffer
  | utf16 order => exact Utf16.outcome_append order code buffer
  | utf32 order =>
    show (Utf32.append order code).outcome buffer = adding (Utf32.encodeBytes order code) buffer
    rw [Utf32.append, Utf32.encodeBytes]
    split
    · rfl
    · rw [outcome_push_bind, adding, Endian.length_write]
      rfl
  | usAscii => exact SingleByte.outcome_append 0x7F code buffer
  | latin1 => exact SingleByte.outcome_append 0xFF code buffer

/-- Under any policy a code point adds its bytes, or those of the substitute, or none. -/
theorem outcome_appendUnder (code : CodePoint) (buffer : List UInt8) :
    (charset.appendUnder policy code).outcome buffer
      = adding (charset.encodeUnder policy code) buffer := by
  have attempted : (if charset.admits policy code then charset.append code
      else throw .illegalSequence : Appending Nat).outcome buffer
      = adding (if charset.admits policy code then charset.encodeChar code
        else .error .illegalSequence) buffer := by
    -- A code point that the policy does not admit is not tried at all.
    split
    · exact outcome_append charset code buffer
    · rfl
  rw [appendUnder, outcome_tryCatch, attempted, encodeUnder]
  -- A failed attempt leaves the buffer as it was, so that the substitute comes right behind it.
  cases (if charset.admits policy code then charset.encodeChar code
    else .error .illegalSequence) with
  | ok bytes => rfl
  | error fault =>
    show (if policy = .strict then throw fault else charset.append charset.substitute).outcome
      buffer = _
    split
    · rfl
    · exact outcome_append charset charset.substitute buffer

/-- A text adds the bytes of the code points before the first one that is refused. -/
theorem appendFrom_eq (index : Nat) (text : List CodePoint) (buffer : List UInt8) :
    charset.appendFrom policy index text buffer
      = ((charset.encodeFrom policy index text).error,
        buffer ++ (charset.encodeFrom policy index text).output) := by
  induction text generalizing index buffer with
  | nil => simp [appendFrom, encodeFrom, Progress.done]
  | cons code rest ih =>
    rw [appendFrom, encodeFrom, outcome_appendUnder]
    cases charset.encodeUnder policy code with
    | error fault =>
      -- The buffer stays as it was before the code point that is refused.
      simp [adding, Progress.stop]
    | ok bytes =>
      -- What follows is written behind the bytes of the first code point.
      simp [adding, ih, Progress.before]

/-- Writing a text to a buffer puts what the text is encoded to at its end. -/
theorem appendText_eq (text : List CodePoint) (buffer : List UInt8) :
    charset.appendText policy text buffer
      = ((charset.encode policy text).result.map List.length,
        buffer ++ (charset.encode policy text).output) := by
  -- The buffer has become longer by the output, whose length is the answer.
  rw [appendText, appendFrom_eq, ← encode]
  obtain ⟨output, _ | error⟩ := charset.encode policy text
  · simp [Progress.result, Except.map]
  · rfl

end Charset

end UniText
