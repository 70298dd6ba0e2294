import UniText.Form

/-! Property records: what normalization needs to know about a code point. -/

namespace UniText

/-- How a decomposition mapping relates to the character that it belongs to. -/
inductive DecompositionKind where
  | unmapped
  | canonical
  | compatible
  | circle
  | final
  | font
  | fraction
  | initial
  | isolated
  | medial
  | narrow
  | noBreak
  | small
  | square
  | subscript
  | superscript
  | vertical
  | wide
  deriving DecidableEq, Repr

namespace DecompositionKind

/-- Every kind, in the order of the numbers by which they are stored. -/
def all : List DecompositionKind :=
  [unmapped, canonical, compatible, circle, final, font, fraction, initial, isolated, medial,
    narrow, noBreak, small, square, subscript, superscript, vertical, wide]

/-- The number by which a kind is stored. -/
def toByte (kind : DecompositionKind) : UInt8 := UInt8.ofNat (all.idxOf kind)

/-- The kind that a number stands for. -/
def ofByte? (byte : UInt8) : Option DecompositionKind := all[byte.toNat]?

/-- The short name of a kind. -/
def shortName : DecompositionKind → String
  | unmapped => "None"
  | canonical => "Can"
  | compatible => "Com"
  | circle => "Enc"
  | final => "Fin"
  | font => "Font"
  | fraction => "Fra"
  | initial => "Init"
  | isolated => "Iso"
  | medial => "Med"
  | narrow => "Nar"
  | noBreak => "Nb"
  | small => "Sml"
  | square => "Sqr"
  | subscript => "Sub"
  | superscript => "Sup"
  | vertical => "Vert"
  | wide => "Wide"

/-- A kind is read back from its number. -/
@[simp] theorem ofByte?_toByte (kind : DecompositionKind) : ofByte? kind.toByte = some kind := by
  cases kind <;> rfl

end DecompositionKind

/-- The answers to quick checks, and whether a character may result from composition. -/
structure Flags where
  nfdNo : Bool
  nfkdNo : Bool
  nfcNo : Bool
  nfcMaybe : Bool
  nfkcNo : Bool
  nfkcMaybe : Bool
  /-- The character never results from canonical composition. -/
  excluded : Bool
  deriving DecidableEq, Repr

namespace Flags

/-- No flag is set. -/
def empty : Flags := ⟨false, false, false, false, false, false, false⟩

/-- The flags as one byte, the first of them in the lowest bit. -/
def toByte (flags : Flags) : UInt8 :=
  UInt8.ofNat <| flags.nfdNo.toNat + 2 * flags.nfkdNo.toNat + 4 * flags.nfcNo.toNat
    + 8 * flags.nfcMaybe.toNat + 16 * flags.nfkcNo.toNat + 32 * flags.nfkcMaybe.toNat
    + 64 * flags.excluded.toNat

/-- The flags that a byte holds, unless its highest bit is set. -/
def ofByte? (byte : UInt8) : Option Flags :=
  let bits := byte.toNat
  -- The highest bit has no meaning yet.
  if bits < 128 then
    some ⟨bits.testBit 0, bits.testBit 1, bits.testBit 2, bits.testBit 3, bits.testBit 4,
      bits.testBit 5, bits.testBit 6⟩
  else none

/-- The flag that rules a code point out of a form. -/
def no (flags : Flags) : Form → Bool
  | .nfc => flags.nfcNo
  | .nfd => flags.nfdNo
  | .nfkc => flags.nfkcNo
  | .nfkd => flags.nfkdNo

/-- The flag that leaves it open whether a code point belongs into a form. -/
def maybe (flags : Flags) : Form → Bool
  | .nfc => flags.nfcMaybe
  | .nfkc => flags.nfkcMaybe
  | .nfd | .nfkd => false

/-- The flags in which only the ruling-out flag of a form is set. -/
def onlyNo : Form → Flags
  | .nfc => { empty with nfcNo := true }
  | .nfd => { empty with nfdNo := true }
  | .nfkc => { empty with nfkcNo := true }
  | .nfkd => { empty with nfkdNo := true }

/-- The flags in which only the undecided flag of a form is set, if it has one. -/
def onlyMaybe : Form → Flags
  | .nfc => { empty with nfcMaybe := true }
  | .nfkc => { empty with nfkcMaybe := true }
  | .nfd | .nfkd => empty

/-- Flags are read back from their byte. -/
@[simp] theorem ofByte?_toByte (flags : Flags) : ofByte? flags.toByte = some flags := by
  -- Each of the seven flags is one bit.
  rcases flags with ⟨_ | _, _ | _, _ | _, _ | _, _ | _, _ | _, _ | _⟩ <;> rfl

end Flags

/-- The properties of a code point. -/
structure Record where
  /-- The canonical combining class, which is zero for starters. -/
  combiningClass : UInt8
  flags : Flags
  kind : DecompositionKind
  /-- The length of the decomposition mapping, zero for none. -/
  mappingLength : UInt8
  /-- The place of the mapping among all mappings. -/
  mappingOffset : UInt16
  deriving DecidableEq, Repr

namespace Record

/-- The record of every code point that normalization leaves alone. -/
def default : Record := ⟨0, .empty, .unmapped, 0, 0⟩

end Record

end UniText
