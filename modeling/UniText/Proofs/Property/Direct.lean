import UniText.Proofs.Property.Composite
import UniText.Proofs.Property.Storing

/-! Tables with an entry for each code point, and a small one in which accents compose. -/

namespace UniText

namespace Sections

/-- Sections in which no two code points share an entry, by the record number of each. -/
def direct (index : CodePoint → UInt16) (records : List Record) (mapping : List CodePoint)
    (compositions : List Composition) : Sections where
  stage1 := (List.range blockCount).map UInt16.ofNat
  stage2 := (List.range (blockCount * blockSize)).map fun place => index (UInt32.ofNat place)
  records := records.map Record.stored
  mapping := mapping
  compositions := compositions

variable {index : CodePoint → UInt16} {records : List Record} {mapping : List CodePoint}
  {compositions : List Composition}

/-- A code point has the record number that it was given. -/
theorem recordIndex_direct {version : Version} {dataLength : Nat} {code : CodePoint} :
    ((direct index records mapping compositions).table version records dataLength).recordIndex code
      = if CodePoint.last < code then 0 else (index code).toNat := by
  unfold PropertyTable.recordIndex
  split
  · rfl
  next inside =>
    -- The code space has as many places as its blocks together.
    have small : code.toNat < blockCount * blockSize := by
      have bounded := UInt32.le_iff_toNat_le.mp (UInt32.not_lt.mp inside)
      have last : CodePoint.last.toNat = 0x10FFFF := rfl
      simp only [blockCount, blockSize]
      omega
    have block : code.toNat / blockSize < blockCount := Nat.div_lt_of_lt_mul (by
      rwa [Nat.mul_comm] at small)
    have number : (UInt16.ofNat (code.toNat / blockSize)).toNat = code.toNat / blockSize := by
      rw [UInt16.toNat_ofNat', Nat.mod_eq_of_lt]
      simp only [blockCount, blockSize] at block ⊢
      omega
    -- The block of a code point has its own number, and so has its place in the second stage.
    simp [table, direct, Array.getD_eq_getD_getElem?, block, number, Nat.div_add_mod', small]

end Sections

namespace PropertyTable

variable {index : CodePoint → UInt16} {records : List Record} {mapping : List CodePoint}
  {compositions : List Composition} {version : Version}

/-- Properties given code point by code point are stored, if what they refer to is there. -/
theorem storedIn_direct
    (fits : records.length * StoredRecord.width + mapping.length * 4
      + compositions.length * Composition.width < 0x80000000)
    (supported : version.major = Version.unicode.major)
    (first : records.head? = some .default)
    (indexes : ∀ code, (index code).toNat < records.length)
    (mapped : ∀ record ∈ records,
      record.mappingOffset.toNat + record.mappingLength.toNat ≤ mapping.length ∧
        (record.mappingLength = 0 ↔ record.kind = .unmapped))
    (targets : ∀ code ∈ mapping, code ≤ CodePoint.last)
    (ascending : Composition.ascending compositions = true)
    (composable : ∀ composition ∈ compositions, composition.inRange = true) :
    let sections := Sections.direct index records mapping compositions
    (sections.table version records (sections.store version).length).StoredIn
      (sections.store version) := by
  have blocks :
      (Sections.direct index records mapping compositions).stage1.length = blockCount := by
    simp [Sections.direct]
  have entries : (Sections.direct index records mapping compositions).stage2.length
      = blockCount * blockSize := by
    simp [Sections.direct]
  -- What is checked of the records and mappings is given, so that the two stages are left.
  refine storedIn_store ?_ supported blocks ?_ (mapM_validate_stored mapped) ?_
  · -- Two stages take a few megabytes, and the other sections are small enough.
    rw [Sections.length_bytes, blocks, entries]
    simp only [Sections.direct, List.length_map, blockCount, blockSize]
    omega
  · rw [entries, Nat.mul_mod_left]
  · rw [Sections.checkReferences_eq_ok_iff, entries, Nat.mul_div_cancel _ (by decide)]
    refine ⟨?_, ?_, first, targets, ascending, composable⟩
    · -- Every block is there, since the second stage has all of them.
      intro block member
      simp only [Sections.direct, List.mem_map, List.mem_range] at member
      obtain ⟨place, within, rfl⟩ := member
      exact Nat.lt_of_le_of_lt (Nat.mod_le ..) within
    · intro entry member
      simp only [Sections.direct, List.mem_map] at member
      obtain ⟨place, -, rfl⟩ := member
      exact indexes _

end PropertyTable

namespace Accents

/-- The record of a letter that is composed of another one and an accent. -/
def composed : Record :=
  ⟨0, { Flags.empty with nfdNo := true, nfkdNo := true }, .canonical, 2, 0⟩

/-- The record of an accent that composes. -/
def acute : Record :=
  ⟨230, { Flags.empty with nfcMaybe := true, nfkcMaybe := true }, .unmapped, 0, 0⟩

/-- The record of a mark of a lower class that does not compose. -/
def dotBelow : Record := ⟨220, .empty, .unmapped, 0, 0⟩

/-- The record of the letters that syllables take in. -/
def joining : Record :=
  ⟨0, { Flags.empty with nfcMaybe := true, nfkcMaybe := true }, .unmapped, 0, 0⟩

/-- All records, the default one first. -/
def records : List Record := [.default, composed, acute, dotBelow, joining]

/-- The number of the record of a code point. -/
def index (code : CodePoint) : UInt16 :=
  if code = 0xE9 then 1
  else if code = 0x301 then 2
  else if code = 0x323 then 3
  else if Hangul.isVowel code || Hangul.isTrailing code then 4
  else 0

/-- The properties of one accented letter, two marks and the letters of syllables. -/
def sections : Sections := .direct index records [0x65, 0x301] [⟨0x65, 0x301, 0xE9⟩]

/-- These properties as they are stored. -/
def bytes : List UInt8 := sections.store .unicode

/-- These properties as a table. -/
def table : PropertyTable := sections.table .unicode records bytes.length

/-- There are five record numbers. -/
theorem index_lt (code : CodePoint) : (index code).toNat < records.length := by
  -- Each branch has a number of its own.
  unfold index
  split
  · decide
  split
  · decide
  split
  · decide
  split <;> decide

/-- All code points that have a number of their own lie in the code space. -/
theorem index_of_beyond {code : CodePoint} (beyond : CodePoint.last < code) : index code = 0 := by
  have outside : 0x10FFFF < code.toNat := UInt32.lt_iff_toNat_lt.mp beyond
  have other {letter : CodePoint} (inside : letter.toNat ≤ 0x10FFFF) : code ≠ letter := by
    rintro rfl
    omega
  -- Neither is it one of the three letters and marks, nor a letter of syllables.
  rw [index, if_neg (other (by decide)), if_neg (other (by decide)), if_neg (other (by decide)),
    if_neg]
  rw [Bool.or_eq_true, Hangul.isVowel_iff, Hangul.isTrailing_iff]
  omega

/-- The record of each code point. -/
theorem record_eq (code : CodePoint) : table.record code =
    if code = 0xE9 then composed else if code = 0x301 then acute
    else if code = 0x323 then dotBelow
    else if Hangul.isVowel code || Hangul.isTrailing code then joining else .default := by
  -- Outside the code space the record is the first one, which is also what its number says.
  have found : table.recordIndex code = (index code).toNat := by
    refine Sections.recordIndex_direct.trans ?_
    split
    · next beyond =>
      rw [index_of_beyond beyond]
      rfl
    · rfl
  rw [PropertyTable.record, found]
  unfold index
  split
  · rfl
  split
  · rfl
  split
  · rfl
  split <;> rfl

/-- The class of each code point. -/
theorem combiningClass_eq (code : CodePoint) : table.combiningClass code =
    if code = 0x301 then 230 else if code = 0x323 then 220 else 0 := by
  -- Of the records that are stored, two are those of marks.
  rw [PropertyTable.combiningClass, record_eq]
  split
  · next same => subst same; rfl
  split
  · rfl
  split
  · rfl
  split <;> rfl

/-- Beyond the accents only the letters of syllables have a record of their own. -/
theorem record_of_large {code : CodePoint} (large : 0x1100 ≤ code.toNat) : table.record code =
    if Hangul.isVowel code || Hangul.isTrailing code then joining else .default := by
  -- The marks and the composite have smaller numbers than any letter of a syllable.
  have other {mark : CodePoint} (small : mark.toNat < 0x1100) : code ≠ mark := by
    rintro rfl
    omega
  have composed_ : code ≠ 0xE9 := other (by decide)
  have acute_ : code ≠ 0x301 := other (by decide)
  have dotBelow_ : code ≠ 0x323 := other (by decide)
  simp only [record_eq, composed_, acute_, dotBelow_, if_false]

/-- These properties are loaded. -/
theorem load_bytes : PropertyTable.load bytes = .ok table := by
  have targets : ∀ code ∈ [0x65, 0x301], code ≤ CodePoint.last := by simp [CodePoint.last]
  have stored : table.StoredIn bytes :=
    PropertyTable.storedIn_direct (by decide) rfl rfl index_lt (by decide) targets rfl (by decide)
  refine PropertyTable.load_eq_ok_iff.mpr ⟨stored, ?_⟩
  have letter : table.recordIndex 0x65 = 0 := Sections.recordIndex_direct
  have mark : table.recordIndex 0x301 = 2 := Sections.recordIndex_direct
  have recs : table.records = records.toArray := rfl
  have maps : table.mapping = #[0x65, 0x301] := rfl
  have notSyllable : Hangul.isSyllable 0x65 = false ∧ Hangul.isSyllable 0x301 = false := by decide
  -- The letter and the accent that compose have no mappings themselves.
  simp [PropertyTable.nestsWithinLimit, PropertyTable.depthsFrom, PropertyTable.depthLimit,
    PropertyTable.depthOf_succ, PropertyTable.mappingOf, PropertyTable.deepen, recs, maps, records,
    letter, mark, notSyllable, composed, acute, dotBelow, joining, Record.default]

/-- There are as many records as were given. -/
theorem size_records : table.records.size = 5 := rfl

/-- There is a single composition. -/
theorem compositions_eq : table.compositions = #[⟨0x65, 0x301, 0xE9⟩] := rfl

/-- The accented letter has the letter and the accent as its mapping. -/
theorem mappingOf_composed : table.mappingOf composed = [0x65, 0x301] := rfl

-- The stored form is far too long to be written out, so that nothing may open it from here on.
attribute [irreducible] bytes table

/-- What composes is a syllable, or the accented letter. -/
theorem eq_of_compose? {first second composite : CodePoint}
    (composed : table.compose? first second = some composite) :
    Hangul.join first second = some composite ∨
      first = 0x65 ∧ second = 0x301 ∧ composite = 0xE9 := by
  -- There is a single composition in the list.
  rcases PropertyTable.eq_of_compose? composed with joined | ⟨listed, -⟩
  · exact .inl joined
  · exact .inr (by simpa [compositions_eq] using listed)

/-- The letter takes in the accent. -/
theorem compose?_accent : table.compose? 0x65 0x301 = some 0xE9 := by
  -- The pair does not join a syllable, is listed, and its composite is not excluded.
  have excluded : table.isExcluded 0xE9 = false := by
    rw [PropertyTable.isExcluded, record_eq]
    rfl
  have apart : Hangul.join 0x65 0x301 = none := by decide
  have found : PropertyTable.findPair #[⟨0x65, 0x301, 0xE9⟩] 0x65 0x301 0 1 = some 0xE9 := by
    rw [PropertyTable.findPair]
    rfl
  simp only [PropertyTable.compose?, apart, compositions_eq]
  rw [show #[(⟨0x65, 0x301, 0xE9⟩ : Composition)].size = 1 from rfl, found]
  simp [excluded]

/-- Nothing takes in what is neither the accent nor a letter that joins a syllable. -/
theorem compose?_eq_none {second : CodePoint} (vowel : Hangul.isVowel second = false)
    (trailing : Hangul.isTrailing second = false) (other : second ≠ 0x301) (first : CodePoint) :
    table.compose? first second = none := by
  rw [Option.eq_none_iff_forall_not_mem]
  intro composite composed
  rcases eq_of_compose? composed with joined | ⟨-, same, -⟩
  · -- Only vowels and trailing consonants join what is before them.
    rcases Hangul.letters_of_join joined with ⟨-, ⟨-, isVowel, -⟩ | ⟨-, isTrailing, -⟩⟩
    · simp [vowel] at isVowel
    · simp [trailing] at isTrailing
  · exact other same

/-- Only syllables and the accented letter decompose. -/
theorem expand_eq (equivalence : Equivalence) (code : CodePoint) :
    table.expand equivalence code =
      if code = 0xE9 then [0x65, 0x301]
      else if Hangul.isSyllable code then Hangul.letters code else [code] := by
  have checked := PropertyTable.checked_of_load load_bytes
  have unmapped (code : CodePoint) (plain : code ≠ 0xE9) :
      (table.record code).mappingLength = 0 := by
    rw [record_eq, if_neg plain]
    split
    · rfl
    split
    · rfl
    split <;> rfl
  by_cases same : code = 0xE9
  · subst same
    have mapped : table.mapping? equivalence (table.record 0xE9) = some [0x65, 0x301] := by
      rw [record_eq, if_pos rfl, ← mappingOf_composed]
      cases equivalence <;> rfl
    rw [checked.expand_of_mapped (by decide) mapped, if_pos rfl]
    -- Neither the letter nor the accent decomposes further.
    have letter : table.expand equivalence 0x65 = [0x65] :=
      checked.expand_of_unmapped equivalence (by decide) (unmapped _ (by decide))
    have accent : table.expand equivalence 0x301 = [0x301] :=
      checked.expand_of_unmapped equivalence (by decide) (unmapped _ (by decide))
    simp [letter, accent]
  · rw [if_neg same]
    split
    · next syllable => exact checked.expand_of_syllable equivalence syllable
    · -- Everything else has a record without a mapping.
      next plain =>
      exact checked.expand_of_unmapped equivalence (by simpa using plain) (unmapped code same)

end Accents

end UniText
