import UniText.Normalize.Ordering
import UniText.Proofs.Hangul
import UniText.Proofs.Property.Nesting

/-! Full decompositions of a loaded table, by the steps that they are made of. -/

namespace UniText.PropertyTable

/-- A code point is no syllable, and has no mapping that an equivalence admits. -/
def Indivisible (table : PropertyTable) (equivalence : Equivalence) (code : CodePoint) : Prop :=
  Hangul.isSyllable code = false ∧ table.mapping? equivalence (table.record code) = none

variable {table : PropertyTable}

/-- The record of a code point is one of the table, or the default one. -/
theorem record_mem_or_default (table : PropertyTable) (code : CodePoint) :
    table.record code ∈ table.records ∨ table.record code = .default := by
  unfold record
  -- Only the number of a record that is there leads to one.
  by_cases within : table.recordIndex code < table.records.size
  · simp [Array.getD_eq_getD_getElem?, Array.getElem?_eq_getElem within]
  · simp [Array.getD_eq_getD_getElem?, Array.getElem?_eq_none (Nat.not_lt.mp within)]

/-- A mapping has as many code points as its record says. -/
theorem Checked.length_mappingOf (checked : table.Checked) (code : CodePoint) :
    (table.mappingOf (table.record code)).length = (table.record code).mappingLength.toNat := by
  rcases table.record_mem_or_default code with member | plain
  · -- The whole mapping lies among the mapped code points.
    have mapped := (checked.mapped _ member).1
    simp only [mappingOf, Array.length_toList, Array.size_extract]
    omega
  · rw [plain, mappingOf_default]
    rfl

/-- A mapping that is there is not empty. -/
theorem Checked.mapping?_ne_nil (checked : table.Checked) {equivalence : Equivalence}
    {code : CodePoint} {codes : List CodePoint}
    (mapped : table.mapping? equivalence (table.record code) = some codes) :
    codes = table.mappingOf (table.record code) ∧ codes ≠ [] := by
  have length := checked.length_mappingOf code
  unfold mapping? at mapped
  split at mapped
  · next admitted =>
    simp only [Bool.and_eq_true, decide_eq_true_eq] at admitted
    simp only [Option.some.injEq] at mapped
    subst mapped
    refine ⟨rfl, ?_⟩
    -- An empty mapping would have the length zero, which the equivalence does not admit.
    intro empty
    rw [empty, List.length_nil] at length
    exact admitted.1 (UInt8.toNat_inj.mp length.symm)
  · simp at mapped

/-- More mappings in a row make no difference once the rank of a record is exceeded. -/
theorem Checked.expandWithin_succ (checked : table.Checked) {rank : Nat → Nat}
    (descends : ∀ below index, table.LeadsTo below index → rank below < rank index)
    (positive : ∀ index, table.mappingOf (table.records.getD index .default) ≠ [] →
      0 < rank index) (equivalence : Equivalence) {limit : Nat} {code : CodePoint}
    (ranked : rank (table.recordIndex code) < limit) :
    table.expandWithin equivalence (limit + 1) code
      = table.expandWithin equivalence limit code := by
  induction limit generalizing code with
  | zero => omega
  | succ limit ih =>
    rw [expandWithin, expandWithin]
    split
    · rfl
    · cases mapped : table.mapping? equivalence (table.record code) with
      | none => rfl
      | some codes =>
        obtain ⟨rfl, some_⟩ := checked.mapping?_ne_nil mapped
        have high := positive (table.recordIndex code) some_
        simp only
        -- Each mapped code point is a syllable or has a lower rank.
        apply List.flatMap_congr
        intro other member
        cases syllable : Hangul.isSyllable other with
        | true =>
          -- A syllable takes a single step, for which there is room.
          obtain ⟨more, rfl⟩ := Nat.exists_eq_add_of_le' (show 1 ≤ limit by omega)
          simp [expandWithin, syllable]
        | false =>
          have lower := descends (table.recordIndex other) (table.recordIndex code)
            ⟨other, member, syllable, rfl⟩
          exact ih (by omega)

/-- The full decomposition of a code point is that of its mapping, if it has one. -/
theorem Checked.expand_eq (checked : table.Checked) (equivalence : Equivalence)
    (code : CodePoint) : table.expand equivalence code =
      if Hangul.isSyllable code then Hangul.letters code
      else match table.mapping? equivalence (table.record code) with
        | some codes => codes.flatMap (table.expand equivalence)
        | none => [code] := by
  obtain ⟨rank, below, descends, positive⟩ := checked.exists_rank
  -- There are enough records for one more mapping in a row.
  have enough : table.expandWithin equivalence (table.records.size + 1) code
      = table.expandWithin equivalence table.records.size code :=
    checked.expandWithin_succ descends positive equivalence (below _)
  rw [expand, ← enough, expandWithin]
  -- With that the mapped code points are expanded as far as any others.
  rfl

/-- A syllable stands for its letters. -/
theorem Checked.expand_of_syllable (checked : table.Checked) (equivalence : Equivalence)
    {code : CodePoint} (syllable : Hangul.isSyllable code = true) :
    table.expand equivalence code = Hangul.letters code := by
  -- Syllables are taken apart by arithmetic before the record is looked at.
  rw [checked.expand_eq, if_pos syllable]

/-- A code point that is mapped stands for what its mapping stands for. -/
theorem Checked.expand_of_mapped (checked : table.Checked) {equivalence : Equivalence}
    {code : CodePoint} {codes : List CodePoint} (plain : Hangul.isSyllable code = false)
    (mapped : table.mapping? equivalence (table.record code) = some codes) :
    table.expand equivalence code = codes.flatMap (table.expand equivalence) := by
  -- The mapping is expanded in its turn.
  rw [checked.expand_eq, plain, if_neg Bool.false_ne_true, mapped]

/-- What holds of syllables, and of a code point if of all that it is mapped to, holds of all. -/
theorem Checked.mapping_induction (checked : table.Checked) {motive : CodePoint → Prop}
    (syllable : ∀ code, Hangul.isSyllable code = true → motive code)
    (mapped : ∀ code, Hangul.isSyllable code = false →
      (∀ other ∈ table.mappingOf (table.record code), motive other) → motive code)
    (code : CodePoint) : motive code := by
  obtain ⟨rank, -, descends, -⟩ := checked.exists_rank
  induction ranked : rank (table.recordIndex code) using Nat.strongRecOn generalizing code with
  | ind _ ih =>
    cases kind : Hangul.isSyllable code with
    | true => exact syllable code kind
    | false =>
      refine mapped code kind fun other member => ?_
      cases below : Hangul.isSyllable other with
      | true => exact syllable other below
      | false =>
        -- The record of the mapped code point comes earlier in the induction.
        have lower := descends (table.recordIndex other) (table.recordIndex code)
          ⟨other, member, below, rfl⟩
        exact ih _ (ranked ▸ lower) other rfl

/-- An indivisible code point stands for itself. -/
theorem Checked.expand_of_indivisible (checked : table.Checked) {equivalence : Equivalence}
    {code : CodePoint} (indivisible : table.Indivisible equivalence code) :
    table.expand equivalence code = [code] := by
  -- There is neither a syllable nor a mapping.
  obtain ⟨plain, unmapped⟩ := indivisible
  simp [checked.expand_eq, plain, unmapped]

/-- The full decomposition of a code point is not empty. -/
theorem Checked.expand_ne_nil (checked : table.Checked) (equivalence : Equivalence)
    (code : CodePoint) : table.expand equivalence code ≠ [] := by
  unfold expand
  induction table.records.size generalizing code with
  | zero => simp [expandWithin]
  | succ limit ih =>
    rw [expandWithin]
    split
    · -- A syllable has two letters at least.
      unfold Hangul.letters
      split <;> simp
    · cases mapped : table.mapping? equivalence (table.record code) with
      | none => simp
      | some codes =>
        -- The first mapped code point alone has a full decomposition that is not empty.
        obtain ⟨-, some_⟩ := checked.mapping?_ne_nil mapped
        obtain ⟨first, rest, rfl⟩ := List.exists_cons_of_ne_nil some_
        simp [ih first]

/-- A code point that has no mapping, and is no syllable, stands for itself. -/
theorem Checked.expand_of_unmapped (checked : table.Checked) (equivalence : Equivalence)
    {code : CodePoint} (plain : Hangul.isSyllable code = false)
    (unmapped : (table.record code).mappingLength = 0) :
    table.expand equivalence code = [code] :=
  -- An empty mapping counts as none, for either equivalence.
  checked.expand_of_indivisible ⟨plain, by simp [mapping?, unmapped]⟩

/-- A syllable stands for what it is joined from, if the letters stand for themselves. -/
theorem Checked.expand_of_join (checked : table.Checked)
    (letters : ∀ code, Hangul.isLetter code = true → (table.record code).mappingLength = 0)
    (equivalence : Equivalence) {first second syllable : CodePoint}
    (joined : Hangul.join first second = some syllable) : table.expand equivalence syllable
      = table.expand equivalence first ++ table.expand equivalence second := by
  have alone {code : CodePoint} (letter : Hangul.isLetter code = true) :
      table.expand equivalence code = [code] :=
    checked.expand_of_unmapped equivalence (Hangul.isSyllable_of_isLetter letter)
      (letters code letter)
  obtain ⟨isSyllable_, parts⟩ := Hangul.letters_of_join joined
  rw [checked.expand_of_syllable equivalence isSyllable_]
  rcases parts with ⟨leading, vowel, same⟩ | ⟨open_, trailing, same⟩
  · rw [same, alone (by simp [Hangul.isLetter, leading]), alone (by simp [Hangul.isLetter, vowel])]
    rfl
  · -- An open syllable is taken apart into its own two letters.
    rw [same, checked.expand_of_syllable equivalence open_,
      alone (by simp [Hangul.isLetter, trailing])]

/-- A code point that is never looked up stands for itself, if it has no properties. -/
theorem Checked.expand_of_small (checked : table.Checked) (equivalence : Equivalence)
    {code : CodePoint} (small : code < firstWithProperties)
    (plain : table.record code = .default) : table.expand equivalence code = [code] := by
  -- The syllables lie far behind the small code points.
  refine checked.expand_of_unmapped equivalence ?_ (by rw [plain]; rfl)
  have below : code.toNat < 0xA0 := UInt32.lt_iff_toNat_lt.mp small
  rw [Bool.eq_false_iff, Ne, Hangul.isSyllable_iff]
  omega

end UniText.PropertyTable
