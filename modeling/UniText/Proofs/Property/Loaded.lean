import UniText.Property.Load

/-! What loading checks: everything that is known about a table that was loaded. -/

namespace UniText

/-- A chain of two computations succeeds exactly when both do. -/
theorem bind_eq_ok_iff {ε α β : Type} {value : Except ε α} {next : α → Except ε β} {result : β} :
    (value >>= next) = .ok result ↔ ∃ input, value = .ok input ∧ next input = .ok result := by
  cases value <;> simp [Bind.bind, Except.bind]

/-- What follows a requirement is reached exactly when the requirement is met. -/
theorem exists_require_iff {condition : Bool} {otherwise : DataError} {goal : Unit → Prop} :
    (∃ done, require condition otherwise = .ok done ∧ goal done) ↔
      condition = true ∧ goal () := by
  -- Meeting a requirement gives nothing but leave to go on.
  constructor
  · rintro ⟨⟨⟩, met, rest⟩
    exact ⟨require_eq_ok_iff.mp met, rest⟩
  · rintro ⟨met, rest⟩
    exact ⟨(), require_eq_ok_iff.mpr met, rest⟩

/-- Reading every entry of a list succeeds with the results of the single entries, in order. -/
theorem mapM_eq_ok_iff {ε α β : Type} {read : α → Except ε β} {entries : List α}
    {results : List β} :
    entries.mapM read = .ok results ↔ entries.map read = results.map Except.ok := by
  induction entries generalizing results with
  | nil => cases results <;> simp [Pure.pure, Except.pure]
  | cons entry entries ih =>
    rw [List.mapM_cons]
    -- The first result is that of the first entry, and the others follow by induction.
    simp only [bind_eq_ok_iff, ih, Pure.pure, Except.pure, Except.ok.injEq, List.map_cons]
    constructor
    · rintro ⟨first, found, others, rest, rfl⟩
      rw [found, rest, List.map_cons]
    · intro same
      cases results with
      | nil => simp at same
      | cons first others =>
        rw [List.map_cons, List.cons.injEq] at same
        exact ⟨first, same.1, others, same.2, rfl⟩

/-- As many numbers are read as are asked for. -/
@[simp] theorem length_numbers (width count : Nat) (bytes : List UInt8) :
    (numbers width count bytes).length = count := by
  -- One number is read at each step.
  induction count generalizing bytes with
  | zero => rfl
  | succ count ih => rw [numbers, List.length_cons, ih]

/-- A stored record is accepted as a record whose mapping lies among the mapped code points. -/
theorem StoredRecord.validate_eq_ok_iff {mappingLength : Nat} {stored : StoredRecord}
    {record : Record} : stored.validate mappingLength = .ok record ↔
      ∃ flags kind, Flags.ofByte? stored.flags = some flags ∧
        DecompositionKind.ofByte? stored.kind = some kind ∧
        stored.mappingOffset.toNat + stored.mappingLength.toNat ≤ mappingLength ∧
        (stored.mappingLength = 0 ↔ kind = .unmapped) ∧
        record = ⟨stored.combiningClass, flags, kind, stored.mappingLength,
          stored.mappingOffset⟩ := by
  unfold validate
  -- Without flags or a kind there is no record, and then no right side either.
  cases Flags.ofByte? stored.flags with
  | none => simp
  | some flags =>
    cases DecompositionKind.ofByte? stored.kind with
    | none => simp
    | some kind =>
      simp only [bind_eq_ok_iff, exists_require_iff, Pure.pure, Except.pure, Except.ok.injEq,
        decide_eq_true_eq, beq_iff_eq, decide_eq_decide]
      -- What remains are the two requirements on the mapping.
      constructor
      · rintro ⟨within, agree, rfl⟩
        exact ⟨flags, kind, rfl, rfl, within, agree, rfl⟩
      · rintro ⟨_, _, ⟨⟩, ⟨⟩, within, agree, rfl⟩
        exact ⟨within, agree, rfl⟩

namespace Header

/-- A header passes when it has the signature, the supported format and the right version. -/
theorem checkKind_eq_ok_iff {header : Header} : header.checkKind = .ok () ↔
    header.magic = signature ∧ header.formatMajor = supportedFormat ∧
      header.version.major = Version.unicode.major := by
  -- The checks are passed one after the other.
  simp only [checkKind, bind_eq_ok_iff, exists_require_iff, require_eq_ok_iff, decide_eq_true_eq]

/-- A body passes when it has the length and the checksum that the header says. -/
theorem checkBody_eq_ok_iff {header : Header} {body : List UInt8} :
    header.checkBody body = .ok () ↔
      header.bodyLength.toNat = body.length ∧ header.checksum = Crc32.checksum body := by
  -- The checks are passed one after the other.
  simp only [checkBody, bind_eq_ok_iff, exists_require_iff, require_eq_ok_iff, decide_eq_true_eq]

/-- The counts pass when the stages have their shape and the sections fill the body. -/
theorem checkCounts_eq_ok_iff {header : Header} : header.checkCounts = .ok () ↔
    (header.blockShift = 6 ∧ header.stage1Length.toNat = blockCount) ∧
      (header.stage2Length.toNat % blockSize = 0 ∧ header.recordCount ≠ 0) ∧
      header.sectionsLength = header.bodyLength.toNat := by
  -- The checks are passed one after the other.
  simp only [checkCounts, bind_eq_ok_iff, exists_require_iff, require_eq_ok_iff,
    Bool.and_eq_true, decide_eq_true_eq]

end Header

/-- The sections pass when every number in them leads to something that is there. -/
theorem Sections.checkReferences_eq_ok_iff {sections : Sections} {records : List Record} :
    sections.checkReferences records = .ok () ↔
      (∀ block ∈ sections.stage1, block.toNat < sections.stage2.length / blockSize) ∧
      (∀ index ∈ sections.stage2, index.toNat < records.length) ∧
      records.head? = some .default ∧ (∀ code ∈ sections.mapping, code ≤ CodePoint.last) ∧
      Composition.ascending sections.compositions = true ∧
      ∀ composition ∈ sections.compositions, composition.inRange = true := by
  -- The checks are passed one after the other.
  simp only [checkReferences, bind_eq_ok_iff, exists_require_iff, require_eq_ok_iff,
    Bool.and_eq_true, List.all_eq_true, decide_eq_true_eq]

namespace PropertyTable

/-- The checks that a table has passed when it was loaded. -/
structure Checked (table : PropertyTable) : Prop where
  /-- The first record is that of all code points without properties. -/
  first : table.records[0]? = some .default
  /-- A mapping lies among the mapped code points, and is there unless the kind says otherwise. -/
  mapped : ∀ record ∈ table.records,
    record.mappingOffset.toNat + record.mappingLength.toNat ≤ table.mapping.size ∧
      (record.mappingLength = 0 ↔ record.kind = .unmapped)
  /-- Every entry of the first stage is the number of a block of the second. -/
  blocks : ∀ block ∈ table.stage1, block.toNat < table.stage2.size / blockSize
  /-- Every entry of the second stage is the number of a record. -/
  indexes : ∀ index ∈ table.stage2, index.toNat < table.records.size
  /-- Only code points are mapped to. -/
  targets : ∀ code ∈ table.mapping, code ≤ CodePoint.last
  /-- The pairs of the compositions come in ascending order. -/
  ascending : Composition.ascending table.compositions.toList = true
  /-- Only code points compose, and to code points. -/
  composable : ∀ composition ∈ table.compositions, composition.inRange = true
  /-- The search for the depth of the mappings has come to an end. -/
  nests : table.nestsWithinLimit = true

/-- Data stands for a table, and passes every check but that of the nesting of its mappings. -/
def StoredIn (table : PropertyTable) (bytes : List UInt8) : Prop :=
  let header := Header.read bytes
  let body := bytes.drop Header.width
  let sections := Sections.read header body
  -- The sections have records only if every stored record stands for one.
  Header.width ≤ bytes.length ∧ header.checkKind = .ok () ∧ header.checkBody body = .ok () ∧
    header.checkCounts = .ok () ∧ ∃ records,
      sections.records.mapM (StoredRecord.validate sections.mapping.length) = .ok records ∧
      sections.checkReferences records = .ok () ∧
      table = sections.table header.version records bytes.length

/-- The first record of stored data is that of all code points without properties. -/
theorem StoredIn.first {bytes : List UInt8} {table : PropertyTable}
    (stored : table.StoredIn bytes) : table.records[0]? = some .default := by
  -- That the first record is the default one is among the checks.
  obtain ⟨-, -, -, -, records, -, references, rfl⟩ := stored
  obtain ⟨-, -, first, -⟩ := Sections.checkReferences_eq_ok_iff.mp references
  simpa [Sections.table, List.head?_eq_getElem?] using first

/-- The first stage of stored data has an entry for each block of the code space. -/
theorem StoredIn.size_stage1 {bytes : List UInt8} {table : PropertyTable}
    (stored : table.StoredIn bytes) : table.stage1.size = blockCount := by
  -- The number of blocks is checked, and as many are read.
  obtain ⟨-, -, -, counts, records, -, -, rfl⟩ := stored
  obtain ⟨⟨-, stage1⟩, -, -⟩ := Header.checkCounts_eq_ok_iff.mp counts
  simpa [Sections.table, Sections.read] using stage1

/-- Every number in stored data leads to something that is there. -/
theorem StoredIn.references {bytes : List UInt8} {table : PropertyTable}
    (stored : table.StoredIn bytes) :
    (∀ block ∈ table.stage1, block.toNat < table.stage2.size / blockSize) ∧
      (∀ index ∈ table.stage2, index.toNat < table.records.size) ∧
      (∀ code ∈ table.mapping, code ≤ CodePoint.last) ∧
      Composition.ascending table.compositions.toList = true ∧
      ∀ composition ∈ table.compositions, composition.inRange = true := by
  -- All of these are checked before the table is made.
  obtain ⟨-, -, -, -, records, -, references, rfl⟩ := stored
  obtain ⟨blocks, indexes, -, targets, ascending, composable⟩ :=
    Sections.checkReferences_eq_ok_iff.mp references
  simpa [Sections.table] using ⟨blocks, indexes, targets, ascending, composable⟩

/-- The mappings of stored records lie among the mapped code points. -/
theorem StoredIn.mapped {bytes : List UInt8} {table : PropertyTable}
    (stored : table.StoredIn bytes) : ∀ record ∈ table.records,
      record.mappingOffset.toNat + record.mappingLength.toNat ≤ table.mapping.size ∧
        (record.mappingLength = 0 ↔ record.kind = .unmapped) := by
  obtain ⟨-, -, -, -, records, validated, -, rfl⟩ := stored
  rw [mapM_eq_ok_iff] at validated
  intro record member
  -- Each record is what some stored record was accepted as.
  have accepted : Except.ok record ∈ records.map (Except.ok (ε := DataError)) :=
    List.mem_map_of_mem (by simpa [Sections.table] using member)
  rw [← validated] at accepted
  obtain ⟨stored, -, valid⟩ := List.mem_map.mp accepted
  obtain ⟨flags, kind, -, -, within, agree, rfl⟩ := StoredRecord.validate_eq_ok_iff.mp valid
  exact ⟨by simpa [Sections.table] using within, agree⟩

/-- Data that passes every other check is loaded if the search for the nesting comes to an end. -/
theorem load_of_storedIn {bytes : List UInt8} {table : PropertyTable}
    (stored : table.StoredIn bytes) : load bytes =
      if table.nestsWithinLimit then .ok table
      else .error (.corrupt "decomposition mapping is cyclic or too deep") := by
  obtain ⟨long, kind, body, counts, records, validated, references, rfl⟩ := stored
  have enough : require (Header.width ≤ bytes.length) (.corrupt
      s!"data is {bytes.length} bytes, shorter than its {Header.width}-byte header") = .ok () :=
    require_eq_ok_iff.mpr (by simpa using long)
  -- All checks before the last one are passed, so that only the last one decides.
  rw [load, enough]
  simp only [Bind.bind, Except.bind, kind, body, counts, validated, references]
  cases (Sections.table _ _ records _).nestsWithinLimit <;> rfl

/-- Data is loaded exactly when it passes every check, and the table is that of its sections. -/
theorem load_eq_ok_iff {bytes : List UInt8} {table : PropertyTable} :
    load bytes = .ok table ↔ table.StoredIn bytes ∧ table.nestsWithinLimit = true := by
  constructor
  · intro loaded
    simp only [load, bind_eq_ok_iff, exists_require_iff, Pure.pure, Except.pure, Except.ok.injEq,
      decide_eq_true_eq] at loaded
    -- The checks have no results but that they were passed.
    obtain ⟨long, ⟨⟩, kind, ⟨⟩, body, ⟨⟩, counts, records, validated, ⟨⟩, references, nests, rfl⟩ :=
      loaded
    exact ⟨⟨long, kind, body, counts, records, validated, references, rfl⟩, nests⟩
  · rintro ⟨stored, nests⟩
    rw [load_of_storedIn stored, if_pos nests]

/-- A table that was loaded has passed every check. -/
theorem checked_of_load {bytes : List UInt8} {table : PropertyTable}
    (loaded : load bytes = .ok table) : table.Checked := by
  -- All but the nesting is known of everything that is stored.
  obtain ⟨stored, nests⟩ := load_eq_ok_iff.mp loaded
  obtain ⟨blocks, indexes, targets, ascending, composable⟩ := stored.references
  exact
    { first := stored.first
      mapped := stored.mapped
      blocks := blocks
      indexes := indexes
      targets := targets
      ascending := ascending
      composable := composable
      nests := nests }

end PropertyTable

end UniText
