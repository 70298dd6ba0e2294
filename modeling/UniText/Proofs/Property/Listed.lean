import UniText.Proofs.Property.Coherence

/-! Tables in which only the code points of a list have properties, numbered in its order. -/

namespace UniText.Listed

/-- The number of the record of a code point: its place in the list, and zero if it has none. -/
def number (entries : List (CodePoint × Record)) (code : CodePoint) : Nat :=
  match entries.findIdx? fun entry => entry.1 = code with
  | some place => place + 1
  | none => 0

/-- The record of a code point, which is the default one if the list has no other. -/
def recordOf (entries : List (CodePoint × Record)) (code : CodePoint) : Record :=
  (entries.lookup code).getD .default

/-- All records, the default one first. -/
def records (entries : List (CodePoint × Record)) : List Record :=
  .default :: entries.map Prod.snd

/-- The properties of the code points of a list. -/
def sections (entries : List (CodePoint × Record)) (mapping : List CodePoint)
    (compositions : List Composition) : Sections :=
  .direct (fun code => UInt16.ofNat (number entries code)) (records entries) mapping compositions

/-- These properties as they are stored. -/
def bytes (entries : List (CodePoint × Record)) (mapping : List CodePoint)
    (compositions : List Composition) : List UInt8 :=
  (sections entries mapping compositions).store .unicode

/-- These properties as a table. -/
def table (entries : List (CodePoint × Record)) (mapping : List CodePoint)
    (compositions : List Composition) : PropertyTable :=
  (sections entries mapping compositions).table .unicode (records entries)
    (bytes entries mapping compositions).length

/-- What a list of properties refers to is there, and the list is not too long. -/
structure Fits (entries : List (CodePoint × Record)) (mapping : List CodePoint)
    (compositions : List Composition) : Prop where
  inside : ∀ entry ∈ entries, entry.1.toNat ≤ 0x10FFFF
  few : entries.length < 0xFFFF
  small : mapping.length * 4 + compositions.length * Composition.width < 0x40000000
  mapped : ∀ entry ∈ entries,
    entry.2.mappingOffset.toNat + entry.2.mappingLength.toNat ≤ mapping.length ∧
      (entry.2.mappingLength = 0 ↔ entry.2.kind = .unmapped)
  targets : ∀ number ∈ mapping.map UInt32.toNat, number ≤ 0x10FFFF
  ascending : Composition.ascending compositions = true
  composable : ∀ composition ∈ compositions, composition.inRange = true

variable {entries : List (CodePoint × Record)} {mapping : List CodePoint}
  {compositions : List Composition}

/-- The record of a code point is listed for it, or is the default one. -/
theorem recordOf_mem_or_default (entries : List (CodePoint × Record)) (code : CodePoint) :
    (code, recordOf entries code) ∈ entries ∨ recordOf entries code = .default := by
  -- The record that is found is the one listed with the code point.
  unfold recordOf
  cases found : entries.lookup code with
  | none => exact .inr rfl
  | some record =>
    obtain ⟨before, behind, rfl, -⟩ := List.lookup_eq_some_iff.mp found
    exact .inl (by simp)

/-- There is a record for every number. -/
theorem number_lt (entries : List (CodePoint × Record)) (code : CodePoint) :
    number entries code < (records entries).length := by
  -- The records that are listed come behind the default one.
  unfold number
  split
  · next place found =>
    have within := (List.findIdx?_eq_some_iff_findIdx_eq.mp found).1
    simpa [records] using within
  · simp [records]

/-- The record of a number is that of the code point. -/
theorem getD_records (entries : List (CodePoint × Record)) (code : CodePoint) :
    (records entries).getD (number entries code) .default = recordOf entries code := by
  unfold records recordOf number
  induction entries with
  | nil => rfl
  | cons entry entries ih =>
    obtain ⟨listed, record⟩ := entry
    by_cases same : listed = code
    · subst same
      simp [List.findIdx?_cons]
    · have other : (code == listed) = false := beq_false_of_ne (Ne.symm same)
      rw [List.lookup_cons, other, ← ih, List.findIdx?_cons]
      -- All places behind the first entry are one further on.
      cases entries.findIdx? fun entry => entry.1 = code <;> simp [same]

/-- The records are the same in the opposite order, if no code point is listed twice. -/
theorem recordOf_reverse (distinct : (entries.map Prod.fst).Nodup) (code : CodePoint) :
    recordOf entries.reverse code = recordOf entries code := by
  unfold recordOf
  induction entries with
  | nil => rfl
  | cons entry entries ih =>
    obtain ⟨listed, record⟩ := entry
    simp only [List.map_cons, List.nodup_cons] at distinct
    by_cases same : code = listed
    · -- The other entries belong to other code points.
      subst same
      have absent : entries.reverse.lookup code = none := by
        rw [List.lookup_eq_none_iff]
        intro other member
        rw [bne_iff_ne]
        rintro rfl
        exact distinct.1 (List.mem_map_of_mem (List.mem_reverse.mp member))
      simp [List.lookup_append, absent]
    · have other : (code == listed) = false := beq_false_of_ne same
      simpa [List.lookup_append, List.lookup_cons, other] using ih distinct.2

/-- Every code point has the record number that its place in the list gives it. -/
theorem recordIndex_eq (fits : Fits entries mapping compositions) (code : CodePoint) :
    (table entries mapping compositions).recordIndex code = number entries code := by
  refine Sections.recordIndex_direct.trans ?_
  have within := number_lt entries code
  have few := fits.few
  simp only [records, List.length_cons, List.length_map] at within
  split
  · next beyond =>
    -- A value outside the code space is not in the list.
    have absent : (entries.findIdx? fun entry => entry.1 = code) = none := by
      rw [List.findIdx?_eq_none_iff]
      intro entry member
      have inside := fits.inside entry member
      have outside : 0x10FFFF < code.toNat := UInt32.lt_iff_toNat_lt.mp beyond
      rw [decide_eq_false_iff_not]
      rintro rfl
      omega
    rw [number, absent]
  · rw [UInt16.toNat_ofNat', Nat.mod_eq_of_lt (by omega)]

/-- Every code point has the record that the list gives it. -/
theorem record_eq (fits : Fits entries mapping compositions) (code : CodePoint) :
    (table entries mapping compositions).record code = recordOf entries code := by
  -- The number of the record leads to the record itself.
  rw [PropertyTable.record, recordIndex_eq fits, ← getD_records]
  simp [table, Sections.table, Array.getD_eq_getD_getElem?]

/-- The properties are stored in their bytes. -/
theorem storedIn_bytes (fits : Fits entries mapping compositions) :
    (table entries mapping compositions).StoredIn (bytes entries mapping compositions) := by
  have few := fits.few
  have small := fits.small
  have inside {code : CodePoint} (below : code.toNat ≤ 0x10FFFF) : code ≤ CodePoint.last :=
    UInt32.le_iff_toNat_le.mpr below
  -- Each condition on what is stored is one on the list.
  refine PropertyTable.storedIn_direct ?_ rfl rfl ?_ ?_ ?_ fits.ascending fits.composable
  · simp only [records, StoredRecord.width, List.length_cons, List.length_map]
    omega
  · intro code
    have within := number_lt entries code
    refine Nat.lt_of_le_of_lt ?_ within
    rw [UInt16.toNat_ofNat']
    exact Nat.mod_le ..
  · -- The default record has no mapping.
    intro record member
    rcases List.mem_cons.mp member with rfl | member
    · simp [Record.default]
    · obtain ⟨entry, listed, rfl⟩ := List.mem_map.mp member
      exact fits.mapped entry listed
  · intro code member
    exact inside (fits.targets code.toNat (List.mem_map_of_mem member))

/-- The records of the table are those of the list. -/
theorem records_eq : (table entries mapping compositions).records = (records entries).toArray := rfl

/-- The mappings are those that were given. -/
theorem mapping_eq : (table entries mapping compositions).mapping = mapping.toArray := rfl

/-- The mapping of a record is the stretch of the given code points that it points to. -/
theorem mappingOf_eq (record : Record) : (table entries mapping compositions).mappingOf record
    = (mapping.drop record.mappingOffset.toNat).take record.mappingLength.toNat := by
  simp [PropertyTable.mappingOf, mapping_eq]

/-- Every code point is mapped to code points that are listed before it. -/
def Descends (entries : List (CodePoint × Record)) (mapping : List CodePoint) : Prop :=
  ∀ index < (records entries).length,
    let record := (records entries).getD index .default
    ∀ place ∈ ((mapping.drop record.mappingOffset.toNat).take record.mappingLength.toNat).map
      (number entries), place < index

instance : Decidable (Descends entries mapping) :=
  inferInstanceAs <| Decidable <| ∀ index < (records entries).length,
    ∀ place ∈ ((mapping.drop ((records entries).getD index .default).mappingOffset.toNat).take
      ((records entries).getD index .default).mappingLength.toNat).map (number entries),
        place < index

/-- Records lead to lower numbers only, if mappings lead to what is listed before. -/
theorem recordIndex_lt (fits : Fits entries mapping compositions)
    (descends : Descends entries mapping) {index : Nat}
    (within : index < (table entries mapping compositions).records.size) {code : CodePoint}
    (member : code ∈ (table entries mapping compositions).mappingOf
      ((table entries mapping compositions).records.getD index .default)) :
    (table entries mapping compositions).recordIndex code < index := by
  -- Every mapping that is listed descends to lower records.
  rw [records_eq] at within
  rw [mappingOf_eq, records_eq] at member
  rw [recordIndex_eq fits]
  exact descends index (by simpa using within) _ (List.mem_map_of_mem (by simpa using member))

/-- The table is loaded, if mappings lead to what is listed before. -/
theorem load_bytes (fits : Fits entries mapping compositions)
    (descends : Descends entries mapping) :
    PropertyTable.load (bytes entries mapping compositions)
      = .ok (table entries mapping compositions) := by
  -- All mappings lead to lower records, and so they nest within the limit.
  have stored := storedIn_bytes fits
  refine PropertyTable.load_eq_ok_iff.mpr ⟨stored, PropertyTable.nests_of_lower stored.first ?_⟩
  intro index within code member _
  exact recordIndex_lt fits descends within member

/-- A code point stands for itself, if the list gives it no mapping. -/
theorem expand_of_unmapped (fits : Fits entries mapping compositions)
    (descends : Descends entries mapping) (equivalence : Equivalence) {code : CodePoint}
    (plain : Hangul.isSyllable code = false)
    (unmapped : (recordOf entries code).mappingLength = 0) :
    (table entries mapping compositions).expand equivalence code = [code] := by
  -- The record that is listed has no mapping.
  have checked := PropertyTable.checked_of_load (load_bytes fits descends)
  refine checked.expand_of_unmapped equivalence plain ?_
  rw [record_eq fits, unmapped]

/-- The compositions are those that were given. -/
theorem compositions_eq :
    (table entries mapping compositions).compositions = compositions.toArray := rfl

/-- The table is coherent, if only later characters are listed, and composites with their pairs. -/
theorem coherent (fits : Fits entries mapping compositions)
    (late : ∀ entry ∈ entries, 0xA0 ≤ entry.1.toNat ∧
      Hangul.isSyllable entry.1 = false ∧ Hangul.isLetter entry.1 = false)
    (composites : ∀ composition ∈ compositions,
      Hangul.isSyllable composition.composite = false ∧
        (recordOf entries composition.composite).combiningClass = 0 ∧
        (recordOf entries composition.composite).kind = .canonical ∧
        (mapping.drop (recordOf entries composition.composite).mappingOffset.toNat).take
            (recordOf entries composition.composite).mappingLength.toNat
          = [composition.first, composition.second]) :
    (table entries mapping compositions).Coherent where
  -- A code point that is not listed has the default record.
  plain code small := by
    have below : code.toNat < 0xA0 := UInt32.lt_iff_toNat_lt.mp small
    rw [record_eq fits]
    rcases recordOf_mem_or_default entries code with member | plain
    · exact absurd (late _ member).1 (Nat.not_le.mpr below)
    · exact plain
  starters code hangul := by
    rw [PropertyTable.combiningClass, record_eq fits]
    rcases recordOf_mem_or_default entries code with member | plain
    · simp [late _ member] at hangul
    · rw [plain]
      rfl
  letters code letter := by
    rw [record_eq fits]
    rcases recordOf_mem_or_default entries code with member | plain
    · simp [late _ member] at letter
    · rw [plain]
      rfl
  composites composition listed _ := by
    rw [compositions_eq, List.mem_toArray] at listed
    rw [PropertyTable.combiningClass, record_eq fits, mappingOf_eq]
    exact composites composition listed

-- The stored form is far too long to be written out, so that nothing may open it from here on.
attribute [irreducible] bytes table

end UniText.Listed
