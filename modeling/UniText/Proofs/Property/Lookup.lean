import UniText.Proofs.Property.Composite

/-! Looking up a loaded table: all that is read is there, and what is found is a code point. -/

namespace UniText

/-- A place that the search for a pair looks at, between a lower and a higher bound. -/
inductive Probed (compositions : Array Composition) (first second : CodePoint) :
    (low high place : Nat) → Prop
  | here {low high : Nat} (some_ : low < high) :
    Probed compositions first second low high (low + (high - low) / 2)
  | behind {low high place : Nat} {composition : Composition} (some_ : low < high)
    (at_ : compositions[low + (high - low) / 2]? = some composition)
    (less : composition.comparePair first second = .lt)
    (further : Probed compositions first second (low + (high - low) / 2 + 1) high place) :
    Probed compositions first second low high place
  | before {low high place : Nat} {composition : Composition} (some_ : low < high)
    (at_ : compositions[low + (high - low) / 2]? = some composition)
    (greater : composition.comparePair first second = .gt)
    (further : Probed compositions first second low (low + (high - low) / 2) place) :
    Probed compositions first second low high place

/-- A search looks at places between its bounds only. -/
theorem Probed.within {compositions : Array Composition} {first second : CodePoint}
    {low high place : Nat} (probed : Probed compositions first second low high place) :
    low ≤ place ∧ place < high := by
  -- Each probe narrows the range, and the place is in the last one.
  induction probed with
  | here => omega
  | behind => omega
  | before => omega

namespace PropertyTable

/-- A search reads nothing but the places that it looks at. -/
theorem findPair_congr {compositions other : Array Composition} {first second : CodePoint}
    {low high : Nat} (same : ∀ place, Probed compositions first second low high place →
      other[place]? = compositions[place]?) :
    findPair other first second low high = findPair compositions first second low high := by
  -- Along the search both lists give the same composition, and go on to the same side.
  fun_induction findPair compositions first second low high with
  | case1 low high some_ middle absent =>
    have read : other[low + (high - low) / 2]? = none := (same _ (.here some_)).trans absent
    rw [findPair, if_pos some_]
    simp only [read]
  | case2 low high some_ middle composition at_ found =>
    have read : other[low + (high - low) / 2]? = some composition :=
      (same _ (.here some_)).trans at_
    rw [findPair, if_pos some_]
    simp only [read, found]
  | case3 low high some_ middle composition at_ less ih =>
    have read : other[low + (high - low) / 2]? = some composition :=
      (same _ (.here some_)).trans at_
    rw [findPair, if_pos some_]
    simp only [read, less]
    exact ih fun place further => same place (.behind some_ at_ less further)
  | case4 low high some_ middle composition at_ greater ih =>
    have read : other[low + (high - low) / 2]? = some composition :=
      (same _ (.here some_)).trans at_
    rw [findPair, if_pos some_]
    simp only [read, greater]
    exact ih fun place further => same place (.before some_ at_ greater further)
  | case5 low high none_ => rw [findPair, if_neg none_]

/-- The decomposition of a code point goes on with that of another one. -/
def DecomposesTo (table : PropertyTable) (equivalence : Equivalence) (other code : CodePoint) :
    Prop :=
  Hangul.isSyllable code = false ∧
    ∃ codes, table.mapping? equivalence (table.record code) = some codes ∧ other ∈ codes

variable {table : PropertyTable}

/-- Decomposition comes to an end, whatever it begins with. -/
theorem Checked.wellFounded (checked : table.Checked) (equivalence : Equivalence) :
    WellFounded (table.DecomposesTo equivalence) := by
  refine ⟨fun code => ?_⟩
  induction code using checked.mapping_induction with
  | syllable code syllable =>
    -- The letters of a syllable do not come from a mapping.
    refine .intro _ fun other leads => ?_
    simp [leads.1] at syllable
  | mapped code plain ih =>
    refine .intro _ ?_
    rintro other ⟨-, codes, mapped, member⟩
    obtain ⟨rfl, -⟩ := checked.mapping?_ne_nil mapped
    exact ih other member

/-- The two stages lead to a number, if the first has all blocks and the second those it names. -/
theorem exists_index_of_blocks (all : table.stage1.size = blockCount)
    (blocks : ∀ block ∈ table.stage1, block.toNat < table.stage2.size / blockSize)
    {code : CodePoint} (inside : code ≤ CodePoint.last) :
    ∃ block index, table.stage1[code.toNat / blockSize]? = some block ∧
      table.stage2[block.toNat * blockSize + code.toNat % blockSize]? = some index ∧
      table.recordIndex code = index.toNat := by
  have small : code.toNat ≤ 0x10FFFF := UInt32.le_iff_toNat_le.mp inside
  -- The first stage has an entry for each block of the code space.
  have entry : code.toNat / blockSize < table.stage1.size := by
    rw [all]
    exact Nat.div_lt_div_of_lt_of_dvd (by decide) (by omega)
  have block := blocks _ (Array.getElem_mem entry)
  -- A block that is in the second stage is there as a whole.
  have place : table.stage1[code.toNat / blockSize].toNat * blockSize + code.toNat % blockSize
      < table.stage2.size := by
    have offset : code.toNat % blockSize < blockSize := Nat.mod_lt _ (by decide)
    rw [Nat.lt_div_iff_mul_lt (by decide)] at block
    omega
  refine ⟨_, _, Array.getElem?_eq_getElem entry, Array.getElem?_eq_getElem place, ?_⟩
  rw [recordIndex, if_neg (UInt32.not_lt.mpr inside)]
  simp [Array.getD_eq_getD_getElem?, Array.getElem?_eq_getElem entry,
    Array.getElem?_eq_getElem place]

/-- Both stages are read at places that are there, and lead to the number of a record. -/
theorem StoredIn.exists_recordIndex {bytes : List UInt8} (stored : table.StoredIn bytes)
    (checked : table.Checked) {code : CodePoint} (inside : code ≤ CodePoint.last) :
    ∃ block index, table.stage1[code.toNat / blockSize]? = some block ∧
      table.stage2[block.toNat * blockSize + code.toNat % blockSize]? = some index ∧
      table.recordIndex code = index.toNat :=
  -- The first stage has a block for every code point.
  exists_index_of_blocks stored.size_stage1 checked.blocks inside

/-- The record of every value is one of the table. -/
theorem StoredIn.getElem?_recordIndex {bytes : List UInt8} (stored : table.StoredIn bytes)
    (checked : table.Checked) (code : CodePoint) :
    table.records[table.recordIndex code]? = some (table.record code) := by
  have within : table.recordIndex code < table.records.size := by
    by_cases inside : code ≤ CodePoint.last
    · obtain ⟨block, index, -, at_, same⟩ := stored.exists_recordIndex checked inside
      exact same ▸ checked.indexes index (Array.mem_of_getElem? at_)
    · -- Values outside the code space have the first record.
      rw [recordIndex, if_pos (UInt32.not_le.mp inside)]
      exact (Array.getElem?_eq_some_iff.mp checked.first).1
  simp [record, Array.getD_eq_getD_getElem?, Array.getElem?_eq_getElem within]

/-- Mappings hold code points only. -/
theorem Checked.le_last_of_mem_mappingOf (checked : table.Checked) {record : Record}
    {code : CodePoint} (member : code ∈ table.mappingOf record) : code ≤ CodePoint.last := by
  -- The mapping of a record is a part of all mappings, which were checked.
  refine checked.targets code ?_
  rw [mappingOf, Array.mem_toList_iff] at member
  obtain ⟨place, within, rfl⟩ := Array.mem_extract_iff_getElem.mp member
  exact Array.getElem_mem _

/-- What holds of letters and of all that is mapped to holds of full decompositions. -/
theorem Checked.of_mem_expand (checked : table.Checked) {motive : CodePoint → Prop}
    (letters : ∀ letter, Hangul.isLetter letter = true → motive letter)
    (mapped : ∀ code, ∀ part ∈ table.mappingOf (table.record code), motive part)
    {equivalence : Equivalence} {code part : CodePoint} (here : motive code)
    (member : part ∈ table.expand equivalence code) : motive part := by
  induction code using checked.mapping_induction with
  | syllable code syllable =>
    rw [checked.expand_of_syllable _ syllable] at member
    exact letters part (Hangul.isLetter_of_mem_letters syllable member)
  | mapped code plain ih =>
    rw [checked.expand_eq, if_neg (by simp [plain])] at member
    cases mapping : table.mapping? equivalence (table.record code) with
    | none =>
      simp only [mapping, List.mem_singleton] at member
      exact member ▸ here
    | some codes =>
      -- The part comes from a code point of the mapping.
      simp only [mapping, List.mem_flatMap] at member
      obtain ⟨other, among, member⟩ := member
      obtain ⟨rfl, -⟩ := checked.mapping?_ne_nil mapping
      exact ih other among (mapped code other among) member

/-- The full decomposition of a code point consists of code points. -/
theorem Checked.le_last_of_mem_expand (checked : table.Checked) {equivalence : Equivalence}
    {code part : CodePoint} (inside : code ≤ CodePoint.last)
    (member : part ∈ table.expand equivalence code) : part ≤ CodePoint.last := by
  -- The letters of syllables are in the code space, and so are all mappings.
  refine checked.of_mem_expand (fun letter isLetter => ?_)
    (fun _ _ => checked.le_last_of_mem_mappingOf) inside member
  rw [Hangul.isLetter_iff] at isLetter
  rw [UInt32.le_iff_toNat_le, show CodePoint.last.toNat = 0x10FFFF from rfl]
  omega

/-- What a pair composes to is a code point. -/
theorem Checked.le_last_of_compose? (checked : table.Checked) {first second composite : CodePoint}
    (composed : table.compose? first second = some composite) : composite ≤ CodePoint.last := by
  rcases eq_of_compose? composed with joined | ⟨listed, -⟩
  · have syllable := (Hangul.letters_of_join joined).1
    rw [Hangul.isSyllable_iff] at syllable
    rw [UInt32.le_iff_toNat_le, show CodePoint.last.toNat = 0x10FFFF from rfl]
    omega
  · -- The characters of the list have been compared with the last one.
    have inRange := checked.composable _ listed
    simp only [Composition.inRange, Bool.and_eq_true, decide_eq_true_eq] at inRange
    exact inRange.2

end PropertyTable

end UniText
