import UniText.Proofs.Property.Direct

/-! Tables whose compositions and decompositions belong together. -/

namespace UniText.PropertyTable

/-- What normalization relies on where composition has to undo decomposition.

These are facts about the characters, which loading does not check. -/
structure Coherent (table : PropertyTable) : Prop where
  /-- Code points that are never looked up have no properties. -/
  plain : ∀ code < firstWithProperties, table.record code = .default
  /-- Syllables and their letters are starters. -/
  starters : ∀ code, (Hangul.isSyllable code || Hangul.isLetter code) = true →
    table.combiningClass code = 0
  /-- The letters of syllables stand for themselves. -/
  letters : ∀ code, Hangul.isLetter code = true → (table.record code).mappingLength = 0
  /-- What a pair composes to is a starter with that pair as its canonical mapping. -/
  composites : ∀ composition ∈ table.compositions,
    table.isExcluded composition.composite = false →
      Hangul.isSyllable composition.composite = false ∧
        table.combiningClass composition.composite = 0 ∧
        (table.record composition.composite).kind = .canonical ∧
        table.mappingOf (table.record composition.composite)
          = [composition.first, composition.second]

variable {table : PropertyTable}

/-- The letters of a syllable stand for themselves. -/
theorem Coherent.expand_letter (coherent : table.Coherent) (checked : table.Checked)
    (equivalence : Equivalence) {code : CodePoint} (letter : Hangul.isLetter code = true) :
    table.expand equivalence code = [code] :=
  -- Letters of syllables have no mapping, and are no syllables themselves.
  checked.expand_of_unmapped equivalence (Hangul.isSyllable_of_isLetter letter)
    (coherent.letters code letter)

/-- What is never looked up is a starter that stands for itself. -/
theorem Coherent.expand_plain (coherent : table.Coherent) (checked : table.Checked)
    (equivalence : Equivalence) {code : CodePoint} (small : code < firstWithProperties) :
    table.combiningClass code = 0 ∧ table.expand equivalence code = [code] := by
  -- The small code points have the default record.
  have plain := coherent.plain code small
  exact ⟨by rw [combiningClass, plain]; rfl, checked.expand_of_small equivalence small plain⟩

/-- The parts of a full decomposition are indivisible. -/
theorem Coherent.indivisible_of_mem_expand (coherent : table.Coherent) (checked : table.Checked)
    {equivalence : Equivalence} {code part : CodePoint}
    (member : part ∈ table.expand equivalence code) : table.Indivisible equivalence part := by
  induction code using checked.mapping_induction with
  | syllable code syllable =>
    rw [checked.expand_of_syllable _ syllable] at member
    have letter := Hangul.isLetter_of_mem_letters syllable member
    exact ⟨Hangul.isSyllable_of_isLetter letter, by simp [mapping?, coherent.letters part letter]⟩
  | mapped code plain ih =>
    rw [checked.expand_eq, if_neg (by simp [plain])] at member
    cases mapped : table.mapping? equivalence (table.record code) with
    | none =>
      -- Without a mapping the only part is the code point itself.
      simp only [mapped, List.mem_singleton] at member
      exact member ▸ ⟨plain, mapped⟩
    | some codes =>
      simp only [mapped, List.mem_flatMap] at member
      obtain ⟨other, among, member⟩ := member
      obtain ⟨rfl, -⟩ := checked.mapping?_ne_nil mapped
      exact ih other among member

/-- A full decomposition holds nothing that decomposes further. -/
theorem Coherent.expand_of_mem_expand (coherent : table.Coherent) (checked : table.Checked)
    {equivalence : Equivalence} {code part : CodePoint}
    (member : part ∈ table.expand equivalence code) : table.expand equivalence part = [part] :=
  -- What an expansion consists of cannot be taken apart further.
  checked.expand_of_indivisible (coherent.indivisible_of_mem_expand checked member)

/-- A text of full decompositions does not decompose further. -/
theorem Coherent.flatMap_expand (coherent : table.Coherent) (checked : table.Checked)
    (equivalence : Equivalence) (source : List CodePoint) :
    ∀ part ∈ source.flatMap (table.expand equivalence), table.expand equivalence part = [part] := by
  -- Every part comes from the expansion of one code point.
  intro part member
  obtain ⟨code, -, member⟩ := List.mem_flatMap.mp member
  exact coherent.expand_of_mem_expand checked member

/-- A composite is a starter that stands for the full decompositions of the pair. -/
theorem Coherent.expand_of_compose? (coherent : table.Coherent) (checked : table.Checked)
    (equivalence : Equivalence) {first second composite : CodePoint}
    (composed : table.compose? first second = some composite) :
    table.combiningClass composite = 0 ∧ table.expand equivalence composite
      = table.expand equivalence first ++ table.expand equivalence second := by
  rcases eq_of_compose? composed with joined | ⟨listed, kept⟩
  · -- A syllable has the letters that it was joined from.
    have syllable := (Hangul.letters_of_join joined).1
    exact ⟨coherent.starters composite (by simp [syllable]),
      checked.expand_of_join coherent.letters equivalence joined⟩
  · obtain ⟨notSyllable, starter, canonical, pair⟩ := coherent.composites _ listed kept
    simp only at notSyllable starter canonical pair
    refine ⟨starter, ?_⟩
    -- A canonical mapping counts under both equivalences.
    have nonzero : (table.record composite).mappingLength ≠ 0 := by
      -- A mapping of two code points is not empty.
      intro zero
      have length := checked.length_mappingOf composite
      rw [pair, zero] at length
      simp at length
    have mapped : table.mapping? equivalence (table.record composite) = some [first, second] := by
      simp [mapping?, nonzero, canonical, pair]
    rw [checked.expand_of_mapped notSyllable mapped]
    simp

/-- The table with one accented letter is coherent. -/
theorem coherent_accents : Accents.table.Coherent where
  plain code small := by
    -- All records but the default one belong to later code points.
    have below : code.toNat < 0xA0 := UInt32.lt_iff_toNat_lt.mp small
    have other {letter : CodePoint} (above : 0xA0 ≤ letter.toNat) : code ≠ letter := by
      rintro rfl
      omega
    rw [Accents.record_eq, if_neg (other (by decide)), if_neg (other (by decide)),
      if_neg (other (by decide)), if_neg]
    rw [Bool.or_eq_true, Hangul.isVowel_iff, Hangul.isTrailing_iff]
    omega
  starters code letter := by
    rw [Bool.or_eq_true, Hangul.isSyllable_iff, Hangul.isLetter_iff] at letter
    rw [combiningClass, Accents.record_of_large (by omega)]
    split <;> rfl
  letters code letter := by
    rw [Hangul.isLetter_iff] at letter
    rw [Accents.record_of_large (by omega)]
    split <;> rfl
  composites composition listed _ := by
    obtain rfl : composition = ⟨0x65, 0x301, 0xE9⟩ := by
      simpa [Accents.compositions_eq] using listed
    have record : Accents.table.record 0xE9 = Accents.composed := Accents.record_eq 0xE9
    refine ⟨by decide, ?_, ?_, ?_⟩
    · rw [combiningClass, record]
      rfl
    · rw [record]
      rfl
    · rw [record, Accents.mappingOf_composed]

end UniText.PropertyTable
