import Mathlib.Data.List.Chain
import UniText.Property.Composite
import UniText.Proofs.Property.Decomposition

/-! Primary composites come from the syllables or from the list of compositions. -/

namespace UniText

/-- A composition compares equal to the pair that it is of, and to no other. -/
theorem Composition.comparePair_eq_iff {composition : Composition} {first second : CodePoint} :
    composition.comparePair first second = .eq ↔
      composition.first = first ∧ composition.second = second := by
  -- The second code points are compared only where the first ones agree.
  simp [comparePair, Ordering.then_eq_eq]

/-- The pair of one composition comes before that of another, by the first and then the second. -/
def Composition.Precedes (one other : Composition) : Prop :=
  one.first < other.first ∨ one.first = other.first ∧ one.second < other.second

/-- A composition compares lower than the pair of another one exactly if it precedes it. -/
theorem Composition.comparePair_lt_iff {one other : Composition} :
    one.comparePair other.first other.second = .lt ↔ one.Precedes other := by
  simp [comparePair, Precedes, Ordering.then_eq_lt, Std.compare_eq_lt]

/-- Compositions come in ascending order exactly if each precedes all that follow it. -/
theorem Composition.ascending_iff {compositions : List Composition} :
    ascending compositions = true ↔ compositions.Pairwise Precedes := by
  have neighbours : ascending compositions = true ↔ compositions.IsChain Precedes := by
    fun_induction ascending compositions with
    | case1 => simp
    | case2 => simp
    | case3 one another rest ih =>
      rw [List.isChain_cons_cons, ← ih, Bool.and_eq_true, decide_eq_true_eq, comparePair_lt_iff]
  -- The order is transitive, so that it is enough to compare neighbours.
  have transitive : Trans Precedes Precedes Precedes := by
    refine ⟨fun {one another other} before behind => ?_⟩
    simp only [Precedes, UInt32.lt_iff_toNat_lt, ← UInt32.toNat_inj] at before behind ⊢
    omega
  exact neighbours.trans List.isChain_iff_pairwise

namespace PropertyTable

/-- What a search finds is listed for the pair. -/
theorem mem_of_findPair {compositions : Array Composition} {first second composite : CodePoint}
    {low high : Nat} (found : findPair compositions first second low high = some composite) :
    ⟨first, second, composite⟩ ∈ compositions := by
  fun_induction findPair with
  | case1 => simp at found
  | case2 low high _ middle composition at_ same =>
    -- The search stops at a composition of the pair itself.
    obtain ⟨rfl, rfl⟩ := Composition.comparePair_eq_iff.mp same
    simp only [Option.some.injEq] at found
    subst found
    exact Array.mem_of_getElem? at_
  | case3 low high _ middle composition at_ less ih => exact ih found
  | case4 low high _ middle composition at_ greater ih => exact ih found
  | case5 => simp at found

variable {table : PropertyTable}

/-- A composite is a syllable, or is listed for its pair and not excluded. -/
theorem eq_of_compose? {first second composite : CodePoint}
    (composed : table.compose? first second = some composite) :
    Hangul.join first second = some composite ∨
      ⟨first, second, composite⟩ ∈ table.compositions ∧ table.isExcluded composite = false := by
  unfold compose? at composed
  split at composed
  · -- Joining comes first.
    next syllable joined => exact .inl (joined.trans composed)
  · split at composed
    · next found =>
      -- What is listed counts unless it is excluded.
      split at composed
      · simp at composed
      · next kept =>
        simp only [Option.some.injEq] at composed
        subst composed
        exact .inr ⟨mem_of_findPair found, by simpa using kept⟩
    · simp at composed

/-- What joins to a syllable composes to it. -/
theorem compose?_of_join {first second syllable : CodePoint}
    (joined : Hangul.join first second = some syllable) :
    table.compose? first second = some syllable := by
  -- Syllables are joined by arithmetic before the list is looked at.
  simp [compose?, joined]

/-- Letters that join to a syllable one after the other compose to it. -/
theorem foldlM_compose?_of_join {letters : List CodePoint} {first syllable : CodePoint}
    (joined : letters.foldlM Hangul.join first = some syllable) :
    letters.foldlM table.compose? first = some syllable := by
  induction letters generalizing first with
  | nil => exact joined
  | cons letter letters ih =>
    -- Each step of joining is a step of composing.
    obtain ⟨between, step, rest⟩ := Option.bind_eq_some_iff.mp joined
    rw [List.foldlM_cons, compose?_of_join step]
    exact ih rest

/-- A value outside the code space has the default record. -/
theorem Checked.record_of_beyond (checked : table.Checked) {code : CodePoint}
    (beyond : CodePoint.last < code) : table.record code = .default := by
  simp [record, recordIndex, beyond, Array.getD_eq_getD_getElem?, checked.first]

/-- No starter takes in a value outside the code space. -/
theorem Checked.compose?_of_beyond (checked : table.Checked) {code : CodePoint}
    (beyond : CodePoint.last < code) (first : CodePoint) : table.compose? first code = none := by
  -- A composite would come from the letters of a syllable, or from a listed pair.
  cases composed : table.compose? first code with
  | none => rfl
  | some composite =>
    rcases eq_of_compose? composed with joined | ⟨listed, -⟩
    · -- Vowels and trailing consonants lie in the code space.
      have outside : 0x10FFFF < code.toNat := UInt32.lt_iff_toNat_lt.mp beyond
      rcases Hangul.letters_of_join joined with ⟨-, ⟨-, vowel, -⟩ | ⟨-, trailing, -⟩⟩
      · have range := Hangul.isVowel_iff.mp vowel
        omega
      · have range := Hangul.isTrailing_iff.mp trailing
        omega
    · -- So do the code points of all listed compositions.
      have inside := checked.composable _ listed
      simp only [Composition.inRange, Bool.and_eq_true, decide_eq_true_eq] at inside
      exact absurd inside.1.2 (UInt32.not_le.mpr beyond)

/-- A value outside the code space stands for itself. -/
theorem Checked.expand_of_beyond (checked : table.Checked) (equivalence : Equivalence)
    {code : CodePoint} (beyond : CodePoint.last < code) :
    table.expand equivalence code = [code] := by
  refine checked.expand_of_unmapped equivalence ?_ (by rw [checked.record_of_beyond beyond]; rfl)
  -- The syllables lie in the code space.
  have outside : 0x10FFFF < code.toNat := UInt32.lt_iff_toNat_lt.mp beyond
  rw [Bool.eq_false_iff, Ne, Hangul.isSyllable_iff]
  omega

end PropertyTable

end UniText
