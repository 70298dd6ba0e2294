import UniText.Charset.Endian
import UniText.CodePoint
import UniText.Fault

/-! The charsets of the library: their names, widths and traits. -/

namespace UniText

/-- A charset. -/
inductive Charset where
  /-- One to four bytes for each scalar value. -/
  | utf8
  /-- One or two units of two bytes. -/
  | utf16 (order : Endian)
  /-- One unit of four bytes. -/
  | utf32 (order : Endian)
  /-- The bytes below 80. -/
  | usAscii
  /-- Every byte is the code point of the same value. -/
  | latin1
  deriving DecidableEq, Repr

namespace Charset

/-- Every charset, in the order in which names are looked up. -/
def all : List Charset :=
  [utf8, utf16 .big, utf16 .little, utf32 .big, utf32 .little, usAscii, latin1]

/-- The canonical name. -/
def name : Charset → String
  | utf8 => "UTF-8"
  | utf16 .big => "UTF-16BE"
  | utf16 .little => "UTF-16LE"
  | utf32 .big => "UTF-32BE"
  | utf32 .little => "UTF-32LE"
  | usAscii => "US-ASCII"
  | latin1 => "ISO-8859-1"

/-- The other names by which a charset is known. -/
def aliases : Charset → List String
  | utf8 => ["UTF8", "cp65001", "ibm-1208", "x-UTF_8J"]
  | utf16 .big => ["UnicodeBigUnmarked", "x-utf-16be", "ibm-1200"]
  | utf16 .little => ["UnicodeLittleUnmarked", "x-utf-16le", "ibm-1202"]
  | utf32 .big => ["UTF32_BigEndian", "ibm-1232"]
  | utf32 .little => ["UTF32_LittleEndian", "ibm-1234"]
  | usAscii => ["ASCII", "ANSI_X3.4-1968", "iso-ir-6", "cp367", "us", "iso646-us"]
  | latin1 => ["latin1", "l1", "cp819", "ibm-819", "8859_1", "iso-ir-100"]

/-- The fewest bytes that a character takes, which is also the size of a code unit. -/
def minLength : Charset → Nat
  | utf8 | usAscii | latin1 => 1
  | utf16 _ => 2
  | utf32 _ => 4

/-- The most bytes that a character takes. -/
def maxLength : Charset → Nat
  | utf8 | utf16 _ | utf32 _ => 4
  | usAscii | latin1 => 1

/-- The charset holds every scalar value. -/
def isUnicode : Charset → Bool
  | utf8 | utf16 _ | utf32 _ => true
  | usAscii | latin1 => false

/-- Bytes below 80 stand for the ASCII characters, and for nothing else. -/
def isAsciiCompatible : Charset → Bool
  | utf8 | usAscii | latin1 => true
  | utf16 _ | utf32 _ => false

/-- Surrogates without a partner can be written as they are. -/
def carriesSurrogates : Charset → Bool
  | utf16 _ => true
  | utf8 | utf32 _ | usAscii | latin1 => false

/-- The three traits as one number, a bit for each. -/
def traits (charset : Charset) : Nat :=
  charset.isUnicode.toNat + 2 * charset.isAsciiCompatible.toNat
    + 4 * charset.carriesSurrogates.toNat

/-- The code point written in the place of what the charset cannot hold. -/
def substitute : Charset → CodePoint
  | utf8 | utf16 _ | utf32 _ => CodePoint.replacement
  | usAscii | latin1 => 0x1A

/-- The list of charsets leaves none out. -/
theorem mem_all (charset : Charset) : charset ∈ all := by
  -- Each constructor, with each byte order where it has one, is an entry of the list.
  cases charset <;> (try rename_i order; cases order) <;> simp [all]

end Charset

end UniText
