import UniText.Proofs.Guarded.Reading

/-! Stored data up to the nesting of its mappings: what is read and checked without a trap. -/

namespace UniText

open Guarded

/-- The entries of a list, each together with the one behind it. -/
def neighbours {α : Type} : List α → List (List α)
  | one :: another :: rest => [one, another] :: neighbours (another :: rest)
  | _ => []

/-- Some composition does not come before the one behind it. -/
def unsorted (compositions : List Composition) : Guarded Bool :=
  (neighbours compositions).anyM fun pair => do
    let one ← found pair[0]?
    let another ← found pair[1]?
    return one.comparePair another.first another.second ≠ .lt

/-- The number of bytes of all sections, if every step of its computation fits into 64 bits. -/
def Header.checkedLength (header : Header) : Option Nat :=
  [checkedProduct header.stage1Length.toNat 2, checkedProduct header.stage2Length.toNat 2,
    checkedProduct header.recordCount.toNat StoredRecord.width,
    checkedProduct header.mappingLength.toNat 4,
    checkedProduct header.compositionCount.toNat Composition.width].foldlM
      (fun total part => part.bind (checkedSum total)) 0

/-- The counts fit the code space, and add up to the length of the body. -/
def Header.checkSums (header : Header) : Guarded Unit := do
  check (header.blockShift = 6 && header.stage1Length.toNat = blockCount) <| .corrupt <|
    s!"unsupported trie shape (shift {header.blockShift}, {header.stage1Length} blocks)"
  check (header.stage2Length.toNat % blockSize = 0 && header.recordCount ≠ 0) <| .corrupt
    "truncated stage-2 block or empty record list"
  check (header.checkedLength = some header.bodyLength.toNat) <| .corrupt
    "section sizes do not add up to the body length"

namespace PropertyTable

/-- Every number in a table leads to something that is there, by the counts of a header. -/
def checkPlaces (table : PropertyTable) (header : Header) : Guarded Unit := do
  let blocks := header.stage2Length.toNat / blockSize
  check (table.stage1.toList.all fun block => block.toNat < blocks) <|
    .corrupt "stage-1 entry points past stage 2"
  check (table.stage2.toList.all fun index => index.toNat < header.recordCount.toNat) <|
    .corrupt "stage-2 entry points past the record list"
  let first ← found table.records[0]?
  check (first = Record.default) <| .corrupt "record 0 is not the default record"
  check (table.mapping.toList.all (· ≤ CodePoint.last)) <|
    .corrupt "decomposition mapping holds a non-code point"
  let unsorted ← unsorted table.compositions.toList
  check (!unsorted && table.compositions.toList.all Composition.inRange) <|
    .corrupt "composition pairs are unsorted or out of range"

/-- Reads a table from its stored form, up to the check of its nesting. -/
def parse (bytes : List UInt8) : Guarded PropertyTable := do
  check (Header.width ≤ bytes.length) <| .corrupt <|
    s!"data is {bytes.length} bytes, shorter than its {Header.width}-byte header"
  let (header, reader) ← Reading.header.run ⟨bytes, 0⟩
  -- The checksum is that of all bytes behind the header, which are cut out for it alone.
  let body ← found (stretch? bytes Header.width bytes.length)
  free (header.checkBody body)
  header.checkSums
  -- The sections are read from the whole data, from where the header stops.
  let (table, _) ← (Reading.table header).run reader
  table.checkPlaces header
  return table

/-- The table that data stands for, whether or not its mappings nest too deep. -/
def stored (bytes : List UInt8) : Except DataError PropertyTable := do
  require (Header.width ≤ bytes.length) <| .corrupt <|
    s!"data is {bytes.length} bytes, shorter than its {Header.width}-byte header"
  let header := Header.read bytes
  let body := bytes.drop Header.width
  header.checkKind
  header.checkBody body
  header.checkCounts
  let sections := Sections.read header body
  let records ← sections.records.mapM (StoredRecord.validate sections.mapping.length)
  sections.checkReferences records
  return sections.table header.version records bytes.length

/-- Data is loaded if it stands for a table whose mappings do not nest too deep. -/
theorem load_eq (bytes : List UInt8) : load bytes = do
    let table ← stored bytes
    require table.nestsWithinLimit <| .corrupt "decomposition mapping is cyclic or too deep"
    return table := by
  -- The depths are looked at last of all.
  simp only [load, stored, bind_assoc, pure_bind]

/-- Data stands for a table exactly if it passes all checks but that of the nesting. -/
theorem stored_eq_ok_iff {bytes : List UInt8} {table : PropertyTable} :
    stored bytes = .ok table ↔ table.StoredIn bytes := by
  -- The table is stored if every check is passed, in whatever order they are made.
  simp only [stored, bind_eq_ok_iff, exists_require_iff, Pure.pure, Except.pure, Except.ok.injEq,
    decide_eq_true_eq, StoredIn]
  constructor
  · rintro ⟨long, ⟨⟩, kind, ⟨⟩, body, ⟨⟩, counts, records, validated, ⟨⟩, references, rfl⟩
    exact ⟨long, kind, body, counts, records, validated, references, rfl⟩
  · rintro ⟨long, kind, body, counts, records, validated, references, rfl⟩
    exact ⟨long, (), kind, (), body, (), counts, records, validated, (), references, rfl⟩

end PropertyTable

/-- No step of adding up the lengths of the sections leaves 64 bits. -/
theorem Header.checkedLength_eq (header : Header) :
    header.checkedLength = some header.sectionsLength := by
  -- Each count is one of 32 bits.
  have stage1 := header.stage1Length.toNat_lt
  have stage2 := header.stage2Length.toNat_lt
  have records := header.recordCount.toNat_lt
  have mapping := header.mappingLength.toNat_lt
  have compositions := header.compositionCount.toNat_lt
  -- No section has more than twelve bytes for each of its entries, and there are five sections.
  simp only [StoredRecord.width, Composition.width, checkedLength, sectionsLength]
  simp (disch := omega) only [checkedProduct_of_lt, List.foldlM_cons, List.foldlM_nil,
    Option.bind_some, checkedSum_of_lt, Nat.zero_add, bind, pure]

/-- The counts are checked without a trap. -/
theorem Header.checkSums_eq (header : Header) : header.checkSums = free header.checkCounts := by
  simp only [checkSums, checkCounts, checkedLength_eq, Option.some.injEq]
  exact free_bind fun _ _ => free_bind fun _ _ => rfl

/-- Compositions are compared with those behind them without a trap. -/
theorem unsorted_eq (compositions : List Composition) :
    unsorted compositions = pure (!Composition.ascending compositions) := by
  induction compositions with
  | nil => rfl
  | cons one rest ih =>
    cases rest with
    | nil => rfl
    | cons another rest =>
      -- Only the first two entries are new to the induction.
      rw [unsorted] at ih ⊢
      simp only [neighbours, List.anyM_cons, List.getElem?_cons_zero, List.getElem?_cons_succ,
        found_some, pure_bind, ih, Composition.ascending]
      cases one.comparePair another.first another.second <;> simp

/-- The numbers in a table are checked without a trap, once the counts of its header are right. -/
theorem PropertyTable.checkPlaces_eq {sections : Sections} {records : List Record}
    {header : Header} (stage2 : sections.stage2.length = header.stage2Length.toNat)
    (counted : records.length = header.recordCount.toNat) (present : header.recordCount ≠ 0)
    (version : Version) (size : Nat) :
    (sections.table version records size).checkPlaces header
      = free (sections.checkReferences records) := by
  -- The first record is looked up, which is there since records are counted.
  obtain ⟨first, others, rfl⟩ : ∃ first others, records = first :: others := by
    apply List.exists_cons_of_length_pos
    rw [counted]
    exact Nat.pos_of_ne_zero fun zero => present (UInt32.toNat_inj.mp zero)
  simp only [checkPlaces, Sections.table, Sections.checkReferences, ← stage2, ← counted,
    List.getElem?_toArray, List.getElem?_cons_zero, found_some, List.head?_cons,
    Option.some.injEq, unsorted_eq, Bool.not_not, pure_bind]
  -- What remains are five conditions that are the same on both sides.
  exact free_bind fun _ _ => free_bind fun _ _ => free_bind fun _ _ => free_bind fun _ _ => rfl

namespace PropertyTable

/-- Data is read and checked without a trap, up to the nesting of its mappings. -/
theorem parse_eq (bytes : List UInt8) : parse bytes = free (stored bytes) := by
  rw [parse, stored]
  -- Data without a whole header is refused, so that from here on there is one.
  refine free_bind fun _ met => ?_
  have long : Header.width ≤ bytes.length := decide_eq_true_eq.mp (require_eq_ok_iff.mp met)
  have body : stretch? bytes Header.width bytes.length = some (bytes.drop Header.width) := by
    obtain ⟨length, total⟩ := Nat.exists_eq_add_of_le long
    rw [total, stretch?_of_le (Nat.le_of_eq total.symm), List.take_of_length_le]
    rw [List.length_drop]
    omega
  rw [Reading.run_header long]
  refine free_bind_return fun _ _ => ?_
  simp only [body, found_some, pure_bind]
  -- An unaltered body has the length that its header tells.
  refine free_bind fun _ unaltered => ?_
  have length := (Header.checkBody_eq_ok_iff.mp unaltered).1
  rw [Header.checkSums_eq]
  refine free_bind fun _ summed => ?_
  obtain ⟨-, ⟨-, present⟩, filled⟩ := Header.checkCounts_eq_ok_iff.mp summed
  -- The counts add up to that length, so every section is there to be read.
  rw [Reading.run_table long ?_ (filled.trans length)]
  · refine free_bind_return fun records validated => ?_
    have counted := congrArg List.length (mapM_eq_ok_iff.mp validated)
    rw [List.length_map, List.length_map] at counted
    simp only
    rw [checkPlaces_eq]
    · exact free_bind fun _ _ => rfl
    · simp [Sections.read]
    · rw [← counted]
      simp [Sections.read]
    · exact present
  · have few := (Header.read bytes).bodyLength.toNat_lt
    rw [List.length_drop] at length
    rw [Header.width] at length
    omega

end PropertyTable

end UniText
