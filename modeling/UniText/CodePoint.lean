/-! Code points, surrogates and scalar values. -/

namespace UniText

/-- A code point value: any 32-bit number may be offered, not all are characters. -/
abbrev CodePoint := UInt32

namespace CodePoint

/-- The last code point of the code space. -/
def last : CodePoint := 0x10FFFF

/-- The character that stands in for what could not be converted. -/
def replacement : CodePoint := 0xFFFD

/-- A surrogate is half of a pair of UTF-16 code units. -/
def isSurrogate (code : CodePoint) : Bool := 0xD800 ≤ code && code ≤ 0xDFFF

/-- A lead surrogate opens a pair. -/
def isLead (code : CodePoint) : Bool := 0xD800 ≤ code && code ≤ 0xDBFF

/-- A trail surrogate closes a pair. -/
def isTrail (code : CodePoint) : Bool := 0xDC00 ≤ code && code ≤ 0xDFFF

/-- A scalar value lies in the code space and is no surrogate. -/
def isScalar (code : CodePoint) : Bool := code ≤ last && !isSurrogate code

/-- A surrogate is either a lead or a trail. -/
theorem isSurrogate_eq (code : CodePoint) : isSurrogate code = (isLead code || isTrail code) := by
  -- The two halves of the range meet without a gap.
  rw [Bool.eq_iff_iff]
  simp only [isSurrogate, isLead, isTrail, Bool.and_eq_true, Bool.or_eq_true,
    decide_eq_true_eq, UInt32.le_iff_toNat_le]
  simp only [show (0xD800 : UInt32).toNat = 0xD800 from rfl,
    show (0xDFFF : UInt32).toNat = 0xDFFF from rfl, show (0xDBFF : UInt32).toNat = 0xDBFF from rfl,
    show (0xDC00 : UInt32).toNat = 0xDC00 from rfl]
  omega

end CodePoint

end UniText
