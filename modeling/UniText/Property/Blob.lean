import UniText.Charset.Endian
import UniText.Property.Checksum
import UniText.Property.Table

/-! The stored form of property data: a header, and a body of five sections. -/

namespace UniText

/-- A record as it is stored, whether or not its numbers make sense. -/
structure StoredRecord where
  combiningClass : UInt8
  flags : UInt8
  kind : UInt8
  mappingLength : UInt8
  mappingOffset : UInt16
  reserved : UInt16
  deriving DecidableEq, Repr

/-- The sections of a body. -/
structure Sections where
  stage1 : List UInt16
  stage2 : List UInt16
  records : List StoredRecord
  mapping : List CodePoint
  compositions : List Composition
  deriving DecidableEq, Repr

/-- The header of stored property data. -/
structure Header where
  magic : List UInt8
  formatMajor : UInt16
  formatMinor : UInt16
  version : Version
  /-- The checksum of the body. -/
  checksum : UInt32
  /-- The number of bytes of the body. -/
  bodyLength : UInt32
  stage1Length : UInt32
  stage2Length : UInt32
  recordCount : UInt32
  mappingLength : UInt32
  compositionCount : UInt32
  /-- The number of low bits of a code point that the second stage looks at. -/
  blockShift : UInt32
  reserved : UInt32
  deriving DecidableEq, Repr

/-- The bytes of a number of one byte or more, the least significant first. -/
def numberBytes (width number : Nat) : List UInt8 := Endian.little.write width number

/-- The number that a stretch of bytes spells. -/
def numberAt (bytes : List UInt8) (offset width : Nat) : Nat :=
  Endian.little.read ((bytes.drop offset).take width)

/-- The numbers of equal width that bytes hold, up to a given count. -/
def numbers (width : Nat) : (count : Nat) → List UInt8 → List Nat
  | 0, _ => []
  | count + 1, bytes =>
    -- A number that the bytes are too short for is read from those that are left.
    Endian.little.read (bytes.take width) :: numbers width count (bytes.drop width)

/-- The pieces of equal width that bytes fall into, up to a given count. -/
def pieces (width : Nat) : (count : Nat) → List UInt8 → List (List UInt8)
  | 0, _ => []
  | count + 1, bytes => bytes.take width :: pieces width count (bytes.drop width)

namespace StoredRecord

/-- The number of bytes of a record. -/
def width : Nat := 8

/-- A record as bytes. -/
def bytes (record : StoredRecord) : List UInt8 :=
  -- Four fields of one byte, and two of two bytes.
  [record.combiningClass, record.flags, record.kind, record.mappingLength]
    ++ numberBytes 2 record.mappingOffset.toNat ++ numberBytes 2 record.reserved.toNat

/-- A record takes as many bytes as its width. -/
@[simp] theorem length_bytes (record : StoredRecord) : record.bytes.length = width := by
  simp [bytes, numberBytes, width]

/-- The record that some bytes hold. -/
def read (bytes : List UInt8) : StoredRecord where
  combiningClass := UInt8.ofNat (numberAt bytes 0 1)
  flags := UInt8.ofNat (numberAt bytes 1 1)
  kind := UInt8.ofNat (numberAt bytes 2 1)
  mappingLength := UInt8.ofNat (numberAt bytes 3 1)
  mappingOffset := UInt16.ofNat (numberAt bytes 4 2)
  reserved := UInt16.ofNat (numberAt bytes 6 2)

end StoredRecord

namespace Composition

/-- The number of bytes of a composition. -/
def width : Nat := 12

/-- A composition as bytes. -/
def bytes (composition : Composition) : List UInt8 :=
  numberBytes 4 composition.first.toNat ++ numberBytes 4 composition.second.toNat
    ++ numberBytes 4 composition.composite.toNat

/-- A composition takes as many bytes as its width. -/
@[simp] theorem length_bytes (composition : Composition) : composition.bytes.length = width := by
  simp [bytes, numberBytes, width]

/-- The composition that some bytes hold. -/
def read (bytes : List UInt8) : Composition where
  first := UInt32.ofNat (numberAt bytes 0 4)
  second := UInt32.ofNat (numberAt bytes 4 4)
  composite := UInt32.ofNat (numberAt bytes 8 4)

end Composition

namespace Header

/-- The number of bytes of a header. -/
def width : Nat := 48

/-- The four bytes with which property data begins. -/
def signature : List UInt8 := [0x55, 0x4E, 0x52, 0x4D]

/-- The supported format of property data. -/
def supportedFormat : UInt16 := 1

/-- A header as bytes. -/
def bytes (header : Header) : List UInt8 :=
  header.magic ++ numberBytes 2 header.formatMajor.toNat ++ numberBytes 2 header.formatMinor.toNat
    ++ header.version.parts ++ numberBytes 4 header.checksum.toNat
    ++ numberBytes 4 header.bodyLength.toNat ++ numberBytes 4 header.stage1Length.toNat
    ++ numberBytes 4 header.stage2Length.toNat ++ numberBytes 4 header.recordCount.toNat
    ++ numberBytes 4 header.mappingLength.toNat ++ numberBytes 4 header.compositionCount.toNat
    ++ numberBytes 4 header.blockShift.toNat ++ numberBytes 4 header.reserved.toNat

/-- A header with a signature of four bytes takes as many bytes as its width. -/
theorem length_bytes {header : Header} (signed : header.magic.length = 4) :
    header.bytes.length = width := by
  -- Every field but the signature has a width of its own.
  simp [bytes, numberBytes, Version.parts, width, signed]

/-- The header that some bytes begin with. -/
def read (bytes : List UInt8) : Header where
  magic := bytes.take 4
  formatMajor := UInt16.ofNat (numberAt bytes 4 2)
  formatMinor := UInt16.ofNat (numberAt bytes 6 2)
  version := .ofParts ((bytes.drop 8).take 4)
  checksum := UInt32.ofNat (numberAt bytes 12 4)
  bodyLength := UInt32.ofNat (numberAt bytes 16 4)
  stage1Length := UInt32.ofNat (numberAt bytes 20 4)
  stage2Length := UInt32.ofNat (numberAt bytes 24 4)
  recordCount := UInt32.ofNat (numberAt bytes 28 4)
  mappingLength := UInt32.ofNat (numberAt bytes 32 4)
  compositionCount := UInt32.ofNat (numberAt bytes 36 4)
  blockShift := UInt32.ofNat (numberAt bytes 40 4)
  reserved := UInt32.ofNat (numberAt bytes 44 4)

/-- The number of bytes that the sections take together. -/
def sectionsLength (header : Header) : Nat :=
  header.stage1Length.toNat * 2 + header.stage2Length.toNat * 2
    + header.recordCount.toNat * StoredRecord.width + header.mappingLength.toNat * 4
    + header.compositionCount.toNat * Composition.width

end Header

namespace Sections

/-- The sections as the bytes of a body. -/
def bytes (sections : Sections) : List UInt8 :=
  -- Nothing stands between the sections, since the header has their counts.
  sections.stage1.flatMap (fun entry => numberBytes 2 entry.toNat)
    ++ sections.stage2.flatMap (fun entry => numberBytes 2 entry.toNat)
    ++ sections.records.flatMap StoredRecord.bytes
    ++ sections.mapping.flatMap (fun code => numberBytes 4 code.toNat)
    ++ sections.compositions.flatMap Composition.bytes

/-- The sections that a body holds, by the counts of its header. -/
def read (header : Header) (body : List UInt8) : Sections :=
  let afterStage1 := body.drop (header.stage1Length.toNat * 2)
  let afterStage2 := afterStage1.drop (header.stage2Length.toNat * 2)
  let afterRecords := afterStage2.drop (header.recordCount.toNat * StoredRecord.width)
  let afterMapping := afterRecords.drop (header.mappingLength.toNat * 4)
  -- Each section begins where the one before it ends.
  { stage1 := (numbers 2 header.stage1Length.toNat body).map UInt16.ofNat
    stage2 := (numbers 2 header.stage2Length.toNat afterStage1).map UInt16.ofNat
    records := (pieces StoredRecord.width header.recordCount.toNat afterStage2).map
      StoredRecord.read
    mapping := (numbers 4 header.mappingLength.toNat afterRecords).map UInt32.ofNat
    compositions := (pieces Composition.width header.compositionCount.toNat afterMapping).map
      Composition.read }

/-- The header that describes some sections, of a given version. -/
def header (sections : Sections) (version : Version) : Header where
  magic := Header.signature
  formatMajor := Header.supportedFormat
  formatMinor := 0
  version := version
  checksum := Crc32.checksum sections.bytes
  bodyLength := UInt32.ofNat sections.bytes.length
  stage1Length := UInt32.ofNat sections.stage1.length
  stage2Length := UInt32.ofNat sections.stage2.length
  recordCount := UInt32.ofNat sections.records.length
  mappingLength := UInt32.ofNat sections.mapping.length
  compositionCount := UInt32.ofNat sections.compositions.length
  blockShift := 6
  reserved := 0

/-- Some sections stored under the header that describes them. -/
def store (sections : Sections) (version : Version) : List UInt8 :=
  let body := sections.bytes
  -- The checksum in the header is that of the body alone.
  (sections.header version).bytes ++ body

end Sections

end UniText
