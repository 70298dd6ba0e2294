import UniText.Proofs.Property.Lookup
import UniText.Proofs.Property.NestingLimit
import UniText.Proofs.Property.Restoring

/-! Tables and their stored form: either of them gives back the other. -/

namespace UniText

/-- The fields of stored data that loading passes over. -/
structure Unread where
  /-- The minor version of the format. -/
  formatMinor : UInt16
  /-- The last field of the header. -/
  reserved : UInt32
  /-- The last field of each record. -/
  records : List UInt16
  deriving DecidableEq, Repr

/-- What some data has in these fields. -/
def Unread.read (bytes : List UInt8) : Unread :=
  let header := Header.read bytes
  { formatMinor := header.formatMinor
    reserved := header.reserved
    records := (Sections.read header (bytes.drop Header.width)).records.map StoredRecord.reserved }

namespace PropertyTable

/-- The sections of a table, with given values in the fields that loading passes over. -/
def sections (table : PropertyTable) (unread : Unread) : Sections where
  stage1 := table.stage1.toList
  stage2 := table.stage2.toList
  records := List.zipWith Record.storedWith table.records.toList unread.records
  mapping := table.mapping.toList
  compositions := table.compositions.toList

/-- The stored form of a table, with given values in the fields that loading passes over. -/
def serialize (table : PropertyTable) (unread : Unread) : List UInt8 :=
  (table.sections unread).storeWith table.version unread.formatMinor unread.reserved

/-- A table that can be stored, and loaded again if its mappings do not nest too deep. -/
structure WellFormed (table : PropertyTable) : Prop where
  /-- The properties are of the fourteenth version of Unicode. -/
  version : table.version.major = 14
  /-- The first stage has an entry for each block of the code space. -/
  stage1 : table.stage1.size = 17408
  /-- The second stage consists of whole blocks. -/
  stage2 : table.stage2.size % 64 = 0
  /-- Every entry of the first stage is the number of a block of the second. -/
  blocks : ∀ block ∈ table.stage1, block.toNat < table.stage2.size / 64
  /-- Every entry of the second stage is the number of a record. -/
  indexes : ∀ index ∈ table.stage2, index.toNat < table.records.size
  /-- The first record is that of all code points without properties. -/
  first : table.records[0]? = some .default
  /-- A mapping lies among the mapped code points, and is there unless the kind says otherwise. -/
  mapped : ∀ record ∈ table.records,
    record.mappingOffset.toNat + record.mappingLength.toNat ≤ table.mapping.size ∧
      (record.mappingLength = 0 ↔ record.kind = .unmapped)
  /-- Only code points are mapped to. -/
  targets : ∀ code ∈ table.mapping, code ≤ CodePoint.last
  /-- The pairs of the compositions come in ascending order. -/
  ascending : table.compositions.toList.Pairwise Composition.Precedes
  /-- Only code points compose, and to code points. -/
  composable : ∀ composition ∈ table.compositions, composition.first ≤ CodePoint.last ∧
    composition.second ≤ CodePoint.last ∧ composition.composite ≤ CodePoint.last
  /-- The length of the body is a number of four bytes. -/
  small : table.stage1.size * 2 + table.stage2.size * 2 + table.records.size * 8
    + table.mapping.size * 4 + table.compositions.size * 12 < 2 ^ 32

variable {table : PropertyTable}

/-- A table that was loaded is well-formed. -/
theorem wellFormed_of_load {bytes : List UInt8} (loaded : load bytes = .ok table) :
    table.WellFormed := by
  have checked := checked_of_load loaded
  obtain ⟨-, kind, body, counts, records, validated, -, rfl⟩ := (load_eq_ok_iff.mp loaded).1
  obtain ⟨-, -, version⟩ := Header.checkKind_eq_ok_iff.mp kind
  obtain ⟨⟨-, stage1⟩, ⟨stage2, -⟩, filled⟩ := Header.checkCounts_eq_ok_iff.mp counts
  -- There are as many records as the header says.
  have recordCount := congrArg List.length (mapM_eq_ok_iff.mp validated)
  simp only [Sections.read, List.length_map, length_pieces] at recordCount
  refine
    { version := version
      stage1 := by simpa [Sections.table, Sections.read, blockCount, blockSize] using stage1
      stage2 := by simpa [Sections.table, Sections.read, blockSize] using stage2
      blocks := checked.blocks
      indexes := checked.indexes
      first := checked.first
      mapped := checked.mapped
      targets := checked.targets
      ascending := Composition.ascending_iff.mp checked.ascending
      composable := ?_
      small := ?_ }
  · intro composition member
    have inRange := checked.composable composition member
    simpa only [Composition.inRange, Bool.and_eq_true, decide_eq_true_eq, and_assoc] using inRange
  · -- The lengths add up to a number that the header has.
    have length := (Header.read bytes).bodyLength.toNat_lt
    rw [← filled, Header.sectionsLength, recordCount] at length
    simpa [Sections.table, Sections.read, StoredRecord.width, Composition.width] using length

/-- The stored form of a well-formed table passes every check but that of the nesting. -/
theorem WellFormed.storedIn (wellFormed : table.WellFormed) {unread : Unread}
    (each : unread.records.length = table.records.size) :
    { table with dataLength := (table.serialize unread).length }.StoredIn
      (table.serialize unread) := by
  have recordCount : (table.sections unread).records.length = table.records.size := by
    simp [sections, each]
  have length : (table.sections unread).bytes.length = table.stage1.size * 2
      + table.stage2.size * 2 + table.records.size * 8 + table.mapping.size * 4
      + table.compositions.size * 12 := by
    rw [Sections.length_bytes, recordCount]
    rfl
  -- What was checked of a table on loading is what makes it well-formed.
  refine storedIn_storeWith unread.formatMinor unread.reserved (length ▸ wellFormed.small)
    wellFormed.version wellFormed.stage1 wellFormed.stage2
    (mapM_validate_zipWith_storedWith ?_ each) (Sections.checkReferences_eq_ok_iff.mpr ?_)
  · simpa [sections] using wellFormed.mapped
  · refine ⟨?_, ?_, ?_, ?_, Composition.ascending_iff.mpr wellFormed.ascending, ?_⟩
    · simpa [sections, blockSize] using wellFormed.blocks
    · simpa [sections] using wellFormed.indexes
    · simpa [List.head?_eq_getElem?] using wellFormed.first
    · simpa [sections] using wellFormed.targets
    · simpa [sections, Composition.inRange, and_assoc] using wellFormed.composable

/-- Data that is loaded is the stored form of the table. -/
theorem serialize_of_load {bytes : List UInt8} (loaded : load bytes = .ok table) :
    table.serialize (Unread.read bytes) = bytes := by
  obtain ⟨long, kind, body, counts, records, validated, -, rfl⟩ := (load_eq_ok_iff.mp loaded).1
  have filled := (Header.checkCounts_eq_ok_iff.mp counts).2.2.trans
    (Header.checkBody_eq_ok_iff.mp body).1
  -- The sections of the table are those that were read.
  have same : ((Sections.read (Header.read bytes) (bytes.drop Header.width)).table
      (Header.read bytes).version records bytes.length).sections (Unread.read bytes)
        = Sections.read (Header.read bytes) (bytes.drop Header.width) := by
    rw [sections]
    simp only [Sections.table, Unread.read, zipWith_storedWith_of_mapM_validate validated]
  rw [serialize, same, Sections.storeWith, Sections.bytes_read filled]
  calc (Sections.headerWith _ _ _ _).bytes ++ bytes.drop Header.width
      = (Header.read bytes).bytes ++ bytes.drop Header.width :=
        congrArg (Header.bytes · ++ _) (Sections.headerWith_read kind body counts)
    _ = bytes.take Header.width ++ bytes.drop Header.width := by rw [Header.bytes_read long]
    _ = bytes := List.take_append_drop ..

/-- Loaded data has a last field for each record of the table. -/
theorem length_unread_of_load {bytes : List UInt8} (loaded : load bytes = .ok table) :
    (Unread.read bytes).records.length = table.records.size := by
  -- Validation maps the stored records one to one, so the counts agree.
  obtain ⟨-, -, -, -, records, validated, -, rfl⟩ := (load_eq_ok_iff.mp loaded).1
  have same := congrArg List.length (mapM_eq_ok_iff.mp validated)
  rw [List.length_map, List.length_map] at same
  simpa [Unread.read, Sections.table] using same

/-- A table remembers the size of the data that it was loaded from. -/
theorem dataLength_of_load {bytes : List UInt8} (loaded : load bytes = .ok table) :
    table.dataLength = bytes.length := by
  -- An accepted table is the one built from these bytes, with their length.
  obtain ⟨-, -, -, -, records, -, -, rfl⟩ := (load_eq_ok_iff.mp loaded).1
  rfl

/-- The two stages lead to the record of each code point, and other values have the default one. -/
def FollowsStages (table : PropertyTable) : Prop :=
  (∀ code ≤ CodePoint.last, ∃ block index : UInt16,
    table.stage1[code.toNat / 64]? = some block ∧
    table.stage2[64 * block.toNat + code.toNat % 64]? = some index ∧
    table.records[index.toNat]? = some (table.record code)) ∧
  ∀ code, CodePoint.last < code → table.record code = .default

/-- In a loaded table the record of each value is found through the two stages. -/
theorem followsStages_of_load {bytes : List UInt8} (loaded : load bytes = .ok table) :
    table.FollowsStages := by
  have stored := (load_eq_ok_iff.mp loaded).1
  have checked := checked_of_load loaded
  -- The lookup multiplies the number of the block from the other side.
  refine ⟨fun code inside => ?_, fun code beyond => checked.record_of_beyond beyond⟩
  obtain ⟨block, index, first, second, same⟩ :=
    StoredIn.exists_recordIndex stored checked inside
  refine ⟨block, index, first, ?_, same ▸ StoredIn.getElem?_recordIndex stored checked code⟩
  rwa [Nat.mul_comm]

/-- Tables that are well-formed and loaded data are the stored forms of each other.

A well-formed table without deep nesting is loaded from its stored form, whatever is in the fields
that loading passes over; and all data that is loaded is the stored form of a well-formed table.
Records are the stored ones with seven flags and eighteen kinds. -/
theorem load_inverse :
    (∀ (table : PropertyTable) (unread : Unread), table.WellFormed →
      (∀ index < table.records.size, table.NestsWithin 8 index) →
      unread.records.length = table.records.size → ∃ loaded,
        load (table.serialize unread) = .ok loaded ∧
        loaded = { table with dataLength := (table.serialize unread).length } ∧
        loaded.FollowsStages) ∧
    (∀ (bytes : List UInt8) (table : PropertyTable), load bytes = .ok table →
      table.WellFormed ∧ table.dataLength = bytes.length ∧
      (Unread.read bytes).records.length = table.records.size ∧
      table.serialize (Unread.read bytes) = bytes ∧ table.FollowsStages) ∧
    ∀ stored : StoredRecord, (∃ record : Record, record.storedWith stored.reserved = stored) ↔
      stored.flags.toNat ≤ 0x7F ∧ stored.kind.toNat ≤ 17 := by
  refine ⟨?_, ?_, fun _ => StoredRecord.exists_storedWith_iff⟩
  · intro table unread wellFormed nests each
    -- Only the check of the nesting is left when the stored form has been read.
    have loaded := load_eq_ok_iff.mpr ⟨wellFormed.storedIn each,
      nests_of_endsWithin fun index _ below => (nestsWithin_sized (nests index below)).endsWithin _⟩
    exact ⟨_, loaded, rfl, followsStages_of_load loaded⟩
  · intro bytes table loaded
    exact ⟨wellFormed_of_load loaded, dataLength_of_load loaded, length_unread_of_load loaded,
      serialize_of_load loaded, followsStages_of_load loaded⟩

/-- The accents are loaded from a stored form of another minor version as well. -/
theorem load_inverse_accents :
    Accents.table.WellFormed ∧ Accents.table.serialize (Unread.read Accents.bytes) = Accents.bytes ∧
      ∃ loaded, load (Accents.table.serialize ⟨3, 0xDEADBEEF, [1, 2, 3, 4, 5]⟩) = .ok loaded ∧
        loaded.records = Accents.table.records ∧ loaded.FollowsStages := by
  obtain ⟨storing, restoring, -⟩ := load_inverse
  obtain ⟨wellFormed, -, -, same, -⟩ := restoring _ _ Accents.load_bytes
  -- No record nests deeper than there are records.
  have nests (index : Nat) : Accents.table.NestsWithin 8 index := by
    refine ((checked_of_load Accents.load_bytes).nestsWithin index).mono ?_
    rw [Accents.size_records]
    decide
  obtain ⟨loaded, stored, rfl, follows⟩ := storing Accents.table ⟨3, 0xDEADBEEF, [1, 2, 3, 4, 5]⟩
    wellFormed (fun index _ => nests index) Accents.size_records.symm
  exact ⟨wellFormed, same, _, stored, rfl, follows⟩

end PropertyTable

end UniText
