import UniText.CodePoint

/-! Hangul syllables, which are taken apart and joined by arithmetic on their code points. -/

namespace UniText.Hangul

/-- The code point of the first syllable. -/
def firstSyllable : Nat := 0xAC00

/-- The code point of the first leading consonant. -/
def firstLeading : Nat := 0x1100

/-- The code point of the first vowel. -/
def firstVowel : Nat := 0x1161

/-- The code point just before the first trailing consonant, for syllables that have none. -/
def noTrailing : Nat := 0x11A7

/-- The number of leading consonants. -/
def leadingCount : Nat := 19

/-- The number of vowels. -/
def vowelCount : Nat := 21

/-- The number of ways to end a syllable, of which one is to have no trailing consonant. -/
def trailingCount : Nat := 28

/-- The number of syllables that share a leading consonant. -/
def perLeading : Nat := vowelCount * trailingCount

/-- The number of syllables. -/
def syllableCount : Nat := leadingCount * perLeading

/-- A number of code points from a given one on. -/
def within (code : CodePoint) (first count : Nat) : Bool :=
  first ≤ code.toNat && code.toNat < first + count

/-- A precomposed syllable. -/
def isSyllable (code : CodePoint) : Bool := within code firstSyllable syllableCount

/-- The place of a syllable among all of them. -/
def index (code : CodePoint) : Nat := code.toNat - firstSyllable

/-- A syllable without a trailing consonant. -/
def isOpen (code : CodePoint) : Bool := isSyllable code && index code % trailingCount = 0

/-- A leading consonant that can begin a syllable. -/
def isLeading (code : CodePoint) : Bool := within code firstLeading leadingCount

/-- A vowel that can follow a leading consonant. -/
def isVowel (code : CodePoint) : Bool := within code firstVowel vowelCount

/-- A trailing consonant that can close an open syllable. -/
def isTrailing (code : CodePoint) : Bool := within code (noTrailing + 1) (trailingCount - 1)

/-- The leading consonant of a syllable. -/
def leadingOf (code : CodePoint) : CodePoint :=
  UInt32.ofNat (firstLeading + index code / perLeading)

/-- The vowel of a syllable. -/
def vowelOf (code : CodePoint) : CodePoint :=
  UInt32.ofNat (firstVowel + index code % perLeading / trailingCount)

/-- The trailing consonant of a syllable that is not open. -/
def trailingOf (code : CodePoint) : CodePoint :=
  UInt32.ofNat (noTrailing + index code % trailingCount)

/-- The open syllable from which a syllable is closed. -/
def openOf (code : CodePoint) : CodePoint :=
  UInt32.ofNat (code.toNat - index code % trailingCount)

/-- The two or three letters of a syllable. -/
def letters (code : CodePoint) : List CodePoint :=
  -- The last digit of the index is zero for want of a trailing consonant.
  if index code % trailingCount = 0 then [leadingOf code, vowelOf code]
  else [leadingOf code, vowelOf code, trailingOf code]

/-- One step of taking a syllable apart: the trailing consonant goes first. -/
def split (code : CodePoint) : CodePoint × CodePoint :=
  -- An open syllable falls into its two letters.
  if index code % trailingCount = 0 then (leadingOf code, vowelOf code)
  else (openOf code, trailingOf code)

/-- Joins a leading consonant and a vowel, or an open syllable and a trailing consonant. -/
def join (first second : CodePoint) : Option CodePoint :=
  -- The places of the letters are the digits of the index of the syllable.
  if isLeading first && isVowel second then
    some <| UInt32.ofNat <| firstSyllable + (first.toNat - firstLeading) * perLeading
      + (second.toNat - firstVowel) * trailingCount
  else if isOpen first && isTrailing second then
    -- A syllable that is closed already takes in nothing more.
    some <| UInt32.ofNat <| first.toNat + (second.toNat - noTrailing)
  else none

end UniText.Hangul
