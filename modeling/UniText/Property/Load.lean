import UniText.Diagnosis
import UniText.Property.Blob
import UniText.Property.Depth
import UniText.Text.Hexadecimal

/-! Loading property data, with every check that the lookups rely on. -/

namespace UniText

/-- Why property data was refused. -/
structure DataError where
  status : Status
  message : String
  deriving DecidableEq, Repr

namespace DataError

/-- Property data is corrupt. -/
def corrupt (message : String) : DataError := ⟨.ofFault .invalidFormat, message⟩

/-- Property data belongs to another format or Unicode version. -/
def incompatible (message : String) : DataError := ⟨.ofFault .incompatibleVersion, message⟩

/-- Property data could not be read, for a given reason. -/
def unreadable (path reason : String) : DataError :=
  ⟨.ofFault .fileAccess, path ++ ": " ++ reason⟩

/-- The wording of an error in property data. -/
def text (error : DataError) : String := error.status.name ++ ": " ++ error.message

/-- What a caller is told about an error in property data. -/
def diagnosis (error : DataError) : Diagnosis := .ofStatus error.status none error.message

end DataError

/-- Goes on only if a condition holds. -/
def require (condition : Bool) (otherwise : DataError) : Except DataError Unit :=
  if condition then .ok () else .error otherwise

/-- Only a condition that holds lets a check go on. -/
@[simp] theorem require_eq_ok_iff {condition : Bool} {otherwise : DataError} :
    require condition otherwise = .ok () ↔ condition := by
  cases condition <;> simp [require]

/-- A checksum in eight hexadecimal digits. -/
def checksumText (checksum : UInt32) : String := String.ofList (hexDigits 8 checksum.toNat)

namespace Header

/-- The data is of the supported format, and of the right version of Unicode. -/
def checkKind (header : Header) : Except DataError Unit := do
  require (header.magic = signature) (.corrupt "not a normalization data blob (bad magic)")
  require (header.formatMajor = supportedFormat) <| .incompatible <|
    s!"data format {header.formatMajor} is not supported (expected {supportedFormat})"
  -- Data of another minor version is welcome.
  require (header.version.major = Version.unicode.major) <| .incompatible <|
    s!"data is for Unicode {header.version.text}, code expects Unicode {Version.unicode.text}"

/-- The body is as long as the header says, and has not been altered. -/
def checkBody (header : Header) (body : List UInt8) : Except DataError Unit := do
  require (header.bodyLength.toNat = body.length) <| .corrupt <|
    s!"body length {body.length} does not match header ({header.bodyLength})"
  -- Only a body of the right length is worth a checksum.
  let computed := Crc32.checksum body
  require (header.checksum = computed) <| .corrupt <|
    s!"checksum mismatch: stored {checksumText header.checksum}, computed {checksumText computed}"

/-- The counts fit the code space, and add up to the length of the body. -/
def checkCounts (header : Header) : Except DataError Unit := do
  require (header.blockShift = 6 && header.stage1Length.toNat = blockCount) <| .corrupt <|
    s!"unsupported trie shape (shift {header.blockShift}, {header.stage1Length} blocks)"
  require (header.stage2Length.toNat % blockSize = 0 && header.recordCount ≠ 0) <| .corrupt
    "truncated stage-2 block or empty record list"
  -- Sections that are shorter or longer than the body would be read from the wrong places.
  require (header.sectionsLength = header.bodyLength.toNat) <| .corrupt
    "section sizes do not add up to the body length"

end Header

namespace StoredRecord

/-- The record that a stored one stands for, among a given number of mapped code points. -/
def validate (mappingLength : Nat) (stored : StoredRecord) : Except DataError Record :=
  match Flags.ofByte? stored.flags with
  | none => .error (.corrupt "record has unknown flag bits")
  | some flags =>
    match DecompositionKind.ofByte? stored.kind with
    | none => .error (.corrupt "record has an unknown decomposition type")
    | some kind => do
      require (stored.mappingOffset.toNat + stored.mappingLength.toNat ≤ mappingLength) <|
        .corrupt "decomposition mapping out of range"
      -- Exactly the records without a mapping are of the kind that has none.
      require ((stored.mappingLength = 0) == (kind = .unmapped)) <|
        .corrupt "decomposition type and mapping disagree"
      return ⟨stored.combiningClass, flags, kind, stored.mappingLength, stored.mappingOffset⟩

end StoredRecord

namespace Composition

/-- All three code points lie in the code space. -/
def inRange (composition : Composition) : Bool :=
  composition.first ≤ CodePoint.last && composition.second ≤ CodePoint.last
    && composition.composite ≤ CodePoint.last

/-- Each composition has a greater pair than the one before it. -/
def ascending : List Composition → Bool
  | [] | [_] => true
  | one :: another :: rest =>
    -- No pair occurs twice, so that a search for it has one answer at most.
    one.comparePair another.first another.second = .lt && ascending (another :: rest)

end Composition

namespace Sections

/-- Every number in the sections leads to something that is there. -/
def checkReferences (sections : Sections) (records : List Record) : Except DataError Unit := do
  let blocks := sections.stage2.length / blockSize
  -- The two stages are followed without any further test.
  require (sections.stage1.all fun block => block.toNat < blocks) <|
    .corrupt "stage-1 entry points past stage 2"
  require (sections.stage2.all fun index => index.toNat < records.length) <|
    .corrupt "stage-2 entry points past the record list"
  -- Values outside the code space have the first record.
  require (records.head? = some Record.default) <|
    .corrupt "record 0 is not the default record"
  require (sections.mapping.all (· ≤ CodePoint.last)) <|
    .corrupt "decomposition mapping holds a non-code point"
  require (Composition.ascending sections.compositions
      && sections.compositions.all Composition.inRange) <|
    .corrupt "composition pairs are unsorted or out of range"

/-- The table of some sections with the records that they stand for. -/
def table (sections : Sections) (version : Version) (records : List Record)
    (dataLength : Nat) : PropertyTable where
  version := version
  stage1 := sections.stage1.toArray
  stage2 := sections.stage2.toArray
  records := records.toArray
  mapping := sections.mapping.toArray
  compositions := sections.compositions.toArray
  dataLength := dataLength

end Sections

namespace PropertyTable

/-- Loads a table from its stored form. -/
def load (bytes : List UInt8) : Except DataError PropertyTable := do
  require (Header.width ≤ bytes.length) <| .corrupt <|
    s!"data is {bytes.length} bytes, shorter than its {Header.width}-byte header"
  let header := Header.read bytes
  let body := bytes.drop Header.width
  header.checkKind
  header.checkBody body
  header.checkCounts
  -- The sections fill the body, so that reading them never runs short.
  let sections := Sections.read header body
  let records ← sections.records.mapM (StoredRecord.validate sections.mapping.length)
  sections.checkReferences records
  let table := sections.table header.version records bytes.length
  -- Mappings that lead back to themselves would have no full decomposition.
  require table.nestsWithinLimit <| .corrupt "decomposition mapping is cyclic or too deep"
  return table

/-- Loads a table from what reading a file gave: its bytes, or the reason why there are none. -/
def ofFile (path : String) : Except String (List UInt8) → Except DataError PropertyTable
  | .ok bytes => load bytes
  | .error reason => .error (.unreadable path reason)

end PropertyTable

end UniText
