import UniText.Charset.Endian
import UniText.Charset.Progress
import UniText.Charset.Step

/-! UTF-16: code points as one or two units of sixteen bits, and units as bytes. -/

namespace UniText.Utf16

/-- The supplementary code point of a surrogate pair. -/
def ofPair (lead trail : UInt16) : CodePoint :=
  (lead.toUInt32 - 0xD800) * 0x400 + (trail.toUInt32 - 0xDC00) + 0x10000

/-- The lead surrogate of a supplementary code point. -/
def leadOf (code : CodePoint) : UInt16 := ((code - 0x10000) / 0x400 + 0xD800).toUInt16

/-- The trail surrogate of a supplementary code point. -/
def trailOf (code : CodePoint) : UInt16 := ((code - 0x10000) % 0x400 + 0xDC00).toUInt16

/-- The step for a unit and the one that follows it, if it is known; the length counts units. -/
def combine (unit : UInt16) (following : Option UInt16) : Step :=
  let code := unit.toUInt32
  -- A lead joins with a trail right after it, and every other surrogate stays alone.
  if !CodePoint.isSurrogate code then ⟨.scalar code, 1⟩
  else match following with
    | some trail =>
      if CodePoint.isLead code && CodePoint.isTrail trail.toUInt32 then
        ⟨.scalar (ofPair unit trail), 2⟩
      else ⟨.surrogate code, 1⟩
    | none => ⟨.surrogate code, 1⟩

/-- Reads the character at the front of some units. -/
def nextUnits : List UInt16 → Step
  | [] => Step.cutOff true 0
  | unit :: rest => combine unit rest.head?

/-- The units of a code point, in which surrogates stand for themselves. -/
def units (code : CodePoint) : Except Fault (List UInt16) :=
  if code ≤ 0xFFFF then .ok [code.toUInt16]
  else if code ≤ CodePoint.last then .ok [leadOf code, trailOf code]
  else .error .illegalSequence

/-- Decodes units from a given offset on. -/
def decodeFrom (policy : ErrorPolicy) (offset : Nat) : List UInt16 → Progress CodePoint
  | [] => .done
  | unit :: rest =>
    let step := nextUnits (unit :: rest)
    match step.decoded.resolve policy with
    | .error fault => .stop ⟨fault, offset, step.length⟩
    | .ok code =>
      -- The front unit is used in any case, and one more after a pair.
      (decodeFrom policy (offset + step.length) (rest.drop (step.length - 1))).before [code]
termination_by units => units.length
decreasing_by
  simp only [List.length_drop, List.length_cons]
  omega

/-- Decodes units into code points. -/
def decode (policy : ErrorPolicy) (units : List UInt16) : Progress CodePoint :=
  decodeFrom policy 0 units

/-- Encodes code points, of which the first has a given index. -/
def encodeFrom (policy : ErrorPolicy) (index : Nat) : List CodePoint → Progress UInt16
  | [] => .done
  | code :: rest =>
    let unfit := CodePoint.last < code || (CodePoint.isSurrogate code && policy ≠ .preserve)
    -- A value that has no place in the output gives way to the replacement character.
    if unfit && policy = .strict then .stop ⟨.illegalSequence, index, 1⟩
    else match units (if unfit then CodePoint.replacement else code) with
      | .error fault => .stop ⟨fault, index, 1⟩
      | .ok written => (encodeFrom policy (index + 1) rest).before written

/-- Encodes code points as units. -/
def encode (policy : ErrorPolicy) (text : List CodePoint) : Progress UInt16 :=
  encodeFrom policy 0 text

/-- The unit that two bytes spell. -/
def unitOf (order : Endian) (first second : UInt8) : UInt16 :=
  UInt16.ofNat (order.read [first, second])

/-- The bytes of a unit. -/
def bytesOf (order : Endian) (unit : UInt16) : List UInt8 := order.write 2 unit.toNat

/-- Reads the character at the front of some bytes. -/
def next (order : Endian) (bytes : List UInt8) (atEnd : Bool) : Step :=
  match bytes with
  | first :: second :: rest =>
    let unit := unitOf order first second
    let following := match rest with
      | third :: fourth :: _ => some (unitOf order third fourth)
      | _ => none
    -- The trail of a pair may still arrive, even if one of its bytes is there.
    if following.isNone && !atEnd && CodePoint.isLead unit.toUInt32 then ⟨.incomplete, 0⟩
    else
      let step := combine unit following
      ⟨step.decoded, step.length * 2⟩
  | _ => Step.cutOff atEnd bytes.length

/-- The bytes of a code point, in which surrogates stand for themselves. -/
def encodeBytes (order : Endian) (code : CodePoint) : Except Fault (List UInt8) :=
  (units code).map fun written => written.flatMap (bytesOf order)

end UniText.Utf16
