import UniText.Proofs.Property.Loaded

/-! Stored property data: what is stored is read back, and stands for what was stored. -/

namespace UniText

/-- A number takes as many bytes as it is written to. -/
@[simp] theorem length_numberBytes (width number : Nat) :
    (numberBytes width number).length = width :=
  Endian.length_write ..

/-- What stands before a number does not matter for reading it. -/
theorem numberAt_append {before : List UInt8} {offset : Nat} (beyond : before.length ≤ offset)
    (after : List UInt8) (width : Nat) :
    numberAt (before ++ after) offset width = numberAt after (offset - before.length) width := by
  -- A read past the front drops the front whole.
  simp [numberAt, List.drop_append, List.drop_eq_nil_of_le beyond]

/-- A single byte before a number does not matter either. -/
theorem numberAt_cons (byte : UInt8) (after : List UInt8) (offset width : Nat) :
    numberAt (byte :: after) (offset + 1) width = numberAt after offset width := rfl

/-- A single byte is read as a number. -/
theorem numberAt_one (byte : UInt8) (after : List UInt8) :
    numberAt (byte :: after) 0 1 = byte.toNat := by
  simp [numberAt, Endian.read, Endian.ofLittle]

/-- A number is read back from the bytes that it was written to. -/
theorem numberAt_numberBytes {width number : Nat} (fits : number < Endian.capacity width)
    (after : List UInt8) : numberAt (numberBytes width number ++ after) 0 width = number := by
  -- The window is exactly what was written, and the number fits its width.
  rw [numberAt, List.drop_zero, List.take_left' (length_numberBytes ..), numberBytes,
    Endian.read_write _ fits]

/-- A number of two bytes is read back. -/
@[simp] theorem numberAt_two (number : UInt16) (after : List UInt8) :
    numberAt (numberBytes 2 number.toNat ++ after) 0 2 = number.toNat :=
  numberAt_numberBytes number.toNat_lt after

/-- A number of four bytes is read back. -/
@[simp] theorem numberAt_four (number : UInt32) (after : List UInt8) :
    numberAt (numberBytes 4 number.toNat ++ after) 0 4 = number.toNat :=
  numberAt_numberBytes number.toNat_lt after

section Pieces

variable {α : Type} {bytes : α → List UInt8} {width : Nat}

/-- Pieces of equal width take that width for each of them. -/
theorem length_flatMap_of_width (wide : ∀ entry, (bytes entry).length = width)
    (entries : List α) : (entries.flatMap bytes).length = entries.length * width := by
  induction entries with
  | nil => simp
  -- One more piece adds its width once.
  | cons entry entries ih => simp [wide, ih, Nat.add_mul, Nat.add_comm]

/-- What follows pieces of equal width begins where they end. -/
theorem drop_flatMap_of_width (wide : ∀ entry, (bytes entry).length = width) (entries : List α)
    (after : List UInt8) :
    (entries.flatMap bytes ++ after).drop (entries.length * width) = after :=
  List.drop_left' (length_flatMap_of_width wide entries)

/-- Pieces of equal width are told apart again. -/
theorem pieces_flatMap (wide : ∀ entry, (bytes entry).length = width) (entries : List α)
    (after : List UInt8) :
    pieces width entries.length (entries.flatMap bytes ++ after) = entries.map bytes := by
  induction entries with
  | nil => rfl
  | cons entry entries ih =>
    -- The first piece is cut off, and the others follow by induction.
    rw [List.flatMap_cons, List.append_assoc, List.length_cons, pieces,
      List.take_left' (wide entry), List.drop_left' (wide entry), ih, List.map_cons]

/-- Numbers of equal width are read back one after the other. -/
theorem numbers_flatMap {value : α → Nat} (fits : ∀ entry, value entry < Endian.capacity width)
    (entries : List α) (after : List UInt8) :
    numbers width entries.length
        (entries.flatMap (fun entry => numberBytes width (value entry)) ++ after)
      = entries.map value := by
  -- Taking one width gives the first number, and dropping it leaves the others in front.
  induction entries with
  | nil => rfl
  | cons entry entries ih =>
    rw [List.flatMap_cons, List.append_assoc, List.length_cons, numbers,
      List.take_left' (length_numberBytes ..), List.drop_left' (length_numberBytes ..), ih,
      List.map_cons, numberBytes, Endian.read_write _ (fits entry)]

end Pieces

/-- A stored record is read back from its bytes. -/
theorem StoredRecord.read_bytes (record : StoredRecord) : read record.bytes = record := by
  obtain ⟨combiningClass, flags, kind, mappingLength, mappingOffset, reserved⟩ := record
  have last := numberAt_two reserved []
  rw [List.append_nil] at last
  -- The first four fields are single bytes, and the other two are read behind them.
  simp [read, bytes, numberAt_one, numberAt_cons, numberAt_append, last]

/-- The stored form of a record. -/
def Record.stored (record : Record) : StoredRecord :=
  ⟨record.combiningClass, record.flags.toByte, record.kind.toByte, record.mappingLength,
    record.mappingOffset, 0⟩

/-- The stored form of a record with any value in the field that loading passes over. -/
def Record.storedWith (record : Record) (reserved : UInt16) : StoredRecord :=
  { record.stored with reserved := reserved }

/-- A record is accepted as what it is, if its mapping is within bounds and allowed. -/
theorem Record.validate_storedWith {mappingLength : Nat} {record : Record}
    (mapped : record.mappingOffset.toNat + record.mappingLength.toNat ≤ mappingLength ∧
      (record.mappingLength = 0 ↔ record.kind = .unmapped)) (reserved : UInt16) :
    (record.storedWith reserved).validate mappingLength = .ok record := by
  obtain ⟨within, agree⟩ := mapped
  -- Flags and kind are read back from their bytes.
  exact StoredRecord.validate_eq_ok_iff.mpr ⟨record.flags, record.kind, Flags.ofByte?_toByte _,
    DecompositionKind.ofByte?_toByte _, within, agree, rfl⟩

/-- Records are accepted as what they are, if their mappings are within bounds and allowed. -/
theorem mapM_validate_stored {mappingLength : Nat} {records : List Record}
    (mapped : ∀ record ∈ records,
      record.mappingOffset.toNat + record.mappingLength.toNat ≤ mappingLength ∧
        (record.mappingLength = 0 ↔ record.kind = .unmapped)) :
    (records.map Record.stored).mapM (StoredRecord.validate mappingLength) = .ok records := by
  -- Each record is accepted by itself, and back as it was.
  rw [mapM_eq_ok_iff, List.map_map]
  apply List.map_congr_left
  intro record member
  exact record.validate_storedWith (mapped record member) 0

/-- A composition is read back from its bytes. -/
theorem Composition.read_bytes (composition : Composition) :
    read composition.bytes = composition := by
  obtain ⟨first, second, composite⟩ := composition
  have last := numberAt_four composite []
  rw [List.append_nil] at last
  -- Nothing follows the last of the three numbers.
  simp [read, bytes, numberAt_append, last]

/-- A header with a signature of four bytes is read back, whatever follows it. -/
theorem Header.read_bytes {header : Header} (signed : header.magic.length = 4)
    (body : List UInt8) : read (header.bytes ++ body) = header := by
  obtain ⟨magic, formatMajor, formatMinor, version, checksum, bodyLength, stage1Length,
    stage2Length, recordCount, mappingLength, compositionCount, blockShift, reserved⟩ := header
  simp only at signed
  have four : version.parts.length = 4 := rfl
  have parts : Version.ofParts version.parts = version := rfl
  -- Each field is read behind the ones before it, whose lengths add up to its offset.
  simp [read, bytes, numberAt_append, signed, four, List.drop_append, List.drop_eq_nil_of_le,
    parts]

namespace Sections

/-- Sections are read back from a body by a header that has their lengths. -/
theorem read_bytes (sections : Sections) {header : Header}
    (stage1 : header.stage1Length.toNat = sections.stage1.length)
    (stage2 : header.stage2Length.toNat = sections.stage2.length)
    (records : header.recordCount.toNat = sections.records.length)
    (mapping : header.mappingLength.toNat = sections.mapping.length)
    (compositions : header.compositionCount.toNat = sections.compositions.length) :
    read header sections.bytes = sections := by
  have two (entry : UInt16) : (numberBytes 2 entry.toNat).length = 2 := length_numberBytes ..
  have four (code : CodePoint) : (numberBytes 4 code.toNat).length = 4 := length_numberBytes ..
  have last := pieces_flatMap Composition.length_bytes sections.compositions []
  rw [List.append_nil] at last
  simp only [read, bytes, stage1, stage2, records, mapping, compositions, List.append_assoc]
  -- Each section begins where the one before it ends.
  rw [drop_flatMap_of_width two, drop_flatMap_of_width two,
    drop_flatMap_of_width StoredRecord.length_bytes, drop_flatMap_of_width four,
    numbers_flatMap UInt16.toNat_lt, numbers_flatMap UInt16.toNat_lt,
    numbers_flatMap UInt32.toNat_lt, pieces_flatMap StoredRecord.length_bytes, last]
  simp [Function.comp_def, StoredRecord.read_bytes, Composition.read_bytes]

/-- A body is as long as its sections take together. -/
theorem length_bytes (sections : Sections) : sections.bytes.length =
    sections.stage1.length * 2 + sections.stage2.length * 2
      + sections.records.length * StoredRecord.width + sections.mapping.length * 4
      + sections.compositions.length * Composition.width := by
  -- In each section all entries have one width, so its length is a product.
  have two (entry : UInt16) : (numberBytes 2 entry.toNat).length = 2 := length_numberBytes ..
  have four (code : CodePoint) : (numberBytes 4 code.toNat).length = 4 := length_numberBytes ..
  simp only [bytes, List.length_append, length_flatMap_of_width two,
    length_flatMap_of_width StoredRecord.length_bytes, length_flatMap_of_width four,
    length_flatMap_of_width Composition.length_bytes]

end Sections

/-- The header of some sections, with any values in the fields that loading passes over. -/
def Sections.headerWith (sections : Sections) (version : Version) (formatMinor : UInt16)
    (reserved : UInt32) : Header :=
  { sections.header version with formatMinor := formatMinor, reserved := reserved }

/-- Some sections stored under such a header. -/
def Sections.storeWith (sections : Sections) (version : Version) (formatMinor : UInt16)
    (reserved : UInt32) : List UInt8 :=
  (sections.headerWith version formatMinor reserved).bytes ++ sections.bytes

/-- Stored sections pass every check but that of the nesting, with the records they stand for. -/
theorem PropertyTable.storedIn_storeWith {sections : Sections} {version : Version}
    {records : List Record} (formatMinor : UInt16) (reserved : UInt32)
    (fits : sections.bytes.length < 0x100000000)
    (supported : version.major = Version.unicode.major)
    (blocks : sections.stage1.length = blockCount)
    (whole : sections.stage2.length % blockSize = 0)
    (validated : sections.records.mapM (StoredRecord.validate sections.mapping.length)
      = .ok records)
    (references : sections.checkReferences records = .ok ()) :
    (sections.table version records
        (sections.storeWith version formatMinor reserved).length).StoredIn
      (sections.storeWith version formatMinor reserved) := by
  let header := sections.headerWith version formatMinor reserved
  have length := sections.length_bytes
  have signed : header.magic.length = 4 := rfl
  -- All lengths are those of parts of the body, so they fit into four bytes.
  have small {number : Nat} (below : number ≤ sections.bytes.length) :
      (UInt32.ofNat number).toNat = number := by
    rw [UInt32.toNat_ofNat', Nat.mod_eq_of_lt (by omega)]
  simp only [StoredRecord.width, Composition.width] at length
  have stage1 : header.stage1Length.toNat = sections.stage1.length := small (by omega)
  have stage2 : header.stage2Length.toNat = sections.stage2.length := small (by omega)
  have recordCount : header.recordCount.toNat = sections.records.length := small (by omega)
  have mapping : header.mappingLength.toNat = sections.mapping.length := small (by omega)
  have compositions : header.compositionCount.toNat = sections.compositions.length :=
    small (by omega)
  have bodyLength : header.bodyLength.toNat = sections.bytes.length := small (Nat.le_refl _)
  -- Both the header and the sections are what was stored.
  have readHeader : Header.read (sections.storeWith version formatMinor reserved) = header :=
    Header.read_bytes signed _
  have wide : header.bytes.length = Header.width := Header.length_bytes signed
  have body : (sections.storeWith version formatMinor reserved).drop Header.width
      = sections.bytes := List.drop_left' wide
  have readSections : Sections.read header sections.bytes = sections :=
    sections.read_bytes stage1 stage2 recordCount mapping compositions
  unfold StoredIn
  rw [readHeader, body]
  simp only [readSections]
  -- There is a first record, so the records are not empty.
  have some_ : sections.records.length ≠ 0 := by
    have first := (Sections.checkReferences_eq_ok_iff.mp references).2.2.1
    have same := congrArg List.length (mapM_eq_ok_iff.mp validated)
    rw [List.length_map, List.length_map] at same
    rw [same]
    cases records <;> simp at first ⊢
  refine ⟨?_, Header.checkKind_eq_ok_iff.mpr ⟨rfl, rfl, supported⟩,
    Header.checkBody_eq_ok_iff.mpr ⟨bodyLength, rfl⟩,
    Header.checkCounts_eq_ok_iff.mpr ⟨⟨rfl, stage1.trans blocks⟩, ⟨?_, ?_⟩, ?_⟩, records,
    validated, references, rfl⟩
  · -- The header alone is as long as a header has to be.
    rw [Sections.storeWith, List.length_append, wide]
    omega
  · rw [stage2, whole]
  · intro none
    exact some_ (recordCount.symm.trans (congrArg UInt32.toNat none))
  · -- The lengths that the header says add up to that of the body.
    rw [Header.sectionsLength, stage1, stage2, recordCount, mapping, compositions, bodyLength]
    exact sections.length_bytes.symm

/-- Stored sections pass these checks under the header that has zeros in the fields passed over. -/
theorem PropertyTable.storedIn_store {sections : Sections} {version : Version}
    {records : List Record} (fits : sections.bytes.length < 0x100000000)
    (supported : version.major = Version.unicode.major)
    (blocks : sections.stage1.length = blockCount)
    (whole : sections.stage2.length % blockSize = 0)
    (validated : sections.records.mapM (StoredRecord.validate sections.mapping.length)
      = .ok records)
    (references : sections.checkReferences records = .ok ()) :
    (sections.table version records (sections.store version).length).StoredIn
      (sections.store version) :=
  storedIn_storeWith 0 0 fits supported blocks whole validated references

end UniText
