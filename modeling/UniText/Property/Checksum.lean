/-! The checksum that guards property data: CRC-32 with reflected bits. -/

namespace UniText.Crc32

/-- The divisor polynomial, its highest power in the lowest bit. -/
def polynomial : UInt32 := 0xEDB88320

/-- Moves the remainder on by one bit. -/
def shiftBit (remainder : UInt32) : UInt32 :=
  -- The divisor is taken away whenever a bit falls out at the low end.
  if remainder % 2 = 1 then remainder / 2 ^^^ polynomial else remainder / 2

/-- Moves the remainder on by a number of bits. -/
def shiftBits : Nat → UInt32 → UInt32
  | 0, remainder => remainder
  | count + 1, remainder => shiftBits count (shiftBit remainder)

/-- Takes in one byte of data. -/
def update (remainder : UInt32) (byte : UInt8) : UInt32 :=
  shiftBits 8 (remainder ^^^ byte.toUInt32)

/-- The checksum of some bytes, with the remainder inverted at both ends. -/
def checksum (bytes : List UInt8) : UInt32 := bytes.foldl update 0xFFFFFFFF ^^^ 0xFFFFFFFF

-- The customary check: the digits from one to nine.
example : checksum [0x31, 0x32, 0x33, 0x34, 0x35, 0x36, 0x37, 0x38, 0x39] = 0xCBF43926 := by
  decide +kernel

end UniText.Crc32
