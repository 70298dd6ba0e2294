import UniText.Normalize.QuickCheck
import UniText.Proofs.Normalize.Boundary
import UniText.Proofs.Normalize.Recomposing

/-! The quick check tells from flags of single code points whether a whole text is normalized. -/

namespace UniText

instance (before after : UInt8) : Decidable (InOrder before after) :=
  inferInstanceAs (Decidable (_ ∨ _))

namespace PropertyTable

variable {table : PropertyTable} {form : Form}

/-- The quick check goes on behind a code point that may stand there and is not ruled out. -/
theorem quickCheckFrom_cons (plain : ∀ code < firstWithProperties, table.record code = .default)
    (verdict : Verdict) (before : UInt8) (code : CodePoint) (rest : List CodePoint) :
    table.quickCheckFrom form verdict before (code :: rest) =
      if InOrder before (table.combiningClass code) ∧ (table.record code).flags.no form = false then
        table.quickCheckFrom form
          (if (table.record code).flags.maybe form then .maybe else verdict)
          (table.combiningClass code) rest
      else .no := by
  rw [quickCheckFrom]
  split
  · next small =>
    -- What is not looked up has the default record, so looking it up would change nothing.
    have default := plain code small
    have flags : Flags.empty.no form = false ∧ Flags.empty.maybe form = false := by
      cases form <;> exact ⟨rfl, rfl⟩
    simp [combiningClass, default, Record.default, InOrder, flags.1, flags.2]
  · rw [combiningClass]
    by_cases fits : InOrder before (table.record code).combiningClass
    · have stays : ¬((table.record code).combiningClass ≠ 0 ∧
          (table.record code).combiningClass < before) := by
        rintro ⟨nonzero, below⟩
        exact absurd below (UInt8.not_lt.mpr (fits.resolve_left nonzero))
      simp only [Bool.and_eq_true, decide_eq_true_eq, stays, if_false, fits, true_and]
      cases (table.record code).flags.no form <;> simp
    · have moves : (table.record code).combiningClass ≠ 0 ∧
          (table.record code).combiningClass < before := by
        simpa [InOrder] using fits
      simp only [Bool.and_eq_true, decide_eq_true_eq, moves, fits, false_and, if_false, and_self,
        ne_eq, not_false_eq_true, if_true]

/-- The quick check says yes to an ordered text with no flags set. -/
theorem clear_of_quickCheckFrom
    (plain : ∀ code < firstWithProperties, table.record code = .default) {verdict : Verdict}
    {before : UInt8} {source : List CodePoint}
    (checked : table.quickCheckFrom form verdict before source = .yes) :
    verdict = .yes ∧ OrderedAfter table.combiningClass before source ∧
      ∀ code ∈ source, (table.record code).flags.no form = false ∧
        (table.record code).flags.maybe form = false := by
  -- A verdict is never taken back, so that a yes in the end means a yes all along.
  induction source generalizing verdict before with
  | nil => exact ⟨checked, orderedAfter_nil before, by simp⟩
  | cons code rest ih =>
    rw [quickCheckFrom_cons plain] at checked
    split at checked
    · next passed =>
      obtain ⟨same, ordered, clear⟩ := ih checked
      split at same
      · simp at same
      · next certain =>
        refine ⟨same, orderedAfter_cons.mpr ⟨passed.1, ordered⟩, ?_⟩
        intro other member
        rcases List.mem_cons.mp member with rfl | member
        · exact ⟨passed.2, by simpa using certain⟩
        · exact clear other member
    · simp at checked

/-- The quick check says no for want of order, or because of a code point that is ruled out. -/
theorem ruledOut_of_quickCheckFrom
    (plain : ∀ code < firstWithProperties, table.record code = .default) {verdict : Verdict}
    (undecided : verdict ≠ .no) {before : UInt8} {source : List CodePoint}
    (checked : table.quickCheckFrom form verdict before source = .no)
    (ordered : OrderedAfter table.combiningClass before source) :
    ∃ code ∈ source, (table.record code).flags.no form = true := by
  induction source generalizing verdict before with
  | nil => exact absurd checked undecided
  | cons code rest ih =>
    obtain ⟨fits, later⟩ := orderedAfter_cons.mp ordered
    rw [quickCheckFrom_cons plain] at checked
    split at checked
    · have stillOpen : (if (table.record code).flags.maybe form = true then Verdict.maybe
          else verdict) ≠ .no := by
        split
        · simp
        · exact undecided
      obtain ⟨other, member, ruled⟩ := ih stillOpen checked later
      exact ⟨other, by simp [member], ruled⟩
    · next failed =>
      -- The code point is in order here, so that its flag is what failed.
      exact ⟨code, by simp, by simpa [fits] using failed⟩

/-- The quick check is undecided in composing forms only. -/
theorem composing_of_quickCheckFrom
    (plain : ∀ code < firstWithProperties, table.record code = .default) {verdict : Verdict}
    {before : UInt8} {source : List CodePoint}
    (checked : table.quickCheckFrom form verdict before source = .maybe) :
    verdict = .maybe ∨ form.isComposing = true := by
  induction source generalizing verdict before with
  | nil => exact .inl checked
  | cons code rest ih =>
    rw [quickCheckFrom_cons plain] at checked
    split at checked
    · rcases ih checked with same | composing
      · split at same
        · next maybe =>
          -- Decomposing forms have no flag that leaves it open.
          right
          cases form <;> simp_all [Flags.maybe, Form.isComposing]
        · exact .inl same
      · exact .inr composing
    · simp at checked

/-- The flag that rules a code point out of a form tells whether the form replaces it. -/
def FlagsReplaced (table : PropertyTable) (form : Form) : Prop :=
  ∀ code ≤ CodePoint.last,
    ((table.record code).flags.no form = true ↔ table.normalize form [code] ≠ [code])

/-- A code point that is not ruled out is normalized alone. -/
theorem FlagsReplaced.normalize_singleton (flagged : table.FlagsReplaced form)
    (coherent : table.Coherent) (checked : table.Checked) {code : CodePoint}
    (clear : (table.record code).flags.no form = false) :
    table.normalize form [code] = [code] := by
  by_cases inside : code ≤ CodePoint.last
  -- The flag would be set if the form replaced the code point.
  · by_contra replaced
    simp [(flagged code inside).mpr replaced] at clear
  · -- A value outside the code space stands for itself.
    exact coherent.normalize_of_alone checked
      (checked.expand_of_beyond form.equivalence (UInt32.not_le.mp inside))

/-- A code point that is ruled out occurs in no normalization. -/
theorem FlagsReplaced.not_mem_normalize (flagged : table.FlagsReplaced form)
    (coherent : table.Coherent) (checked : table.Checked) {code : CodePoint}
    (ruled : (table.record code).flags.no form = true) (source : List CodePoint) :
    code ∉ table.normalize form source := by
  intro member
  -- Every code point of a normalization is normalized alone.
  have alone := ((coherent.normalized checked form source).2 code member).2
  by_cases inside : code ≤ CodePoint.last
  · exact (flagged code inside).mp ruled alone
  · rw [checked.record_of_beyond (UInt32.not_le.mp inside)] at ruled
    cases form <;> exact absurd ruled (by decide)

/-- A decomposing form leaves a text in order alone, if it leaves each code point alone. -/
theorem Coherent.normalize_of_ordered (coherent : table.Coherent) (checked : table.Checked)
    (decomposing : form.isComposing = false) {source : List CodePoint}
    (ordered : Ordered table.combiningClass source)
    (alone : ∀ code ∈ source, table.normalize form [code] = [code]) :
    table.normalize form source = source := by
  have plain (code : CodePoint) (small : code < firstWithProperties) :=
    coherent.expand_plain checked form.equivalence small
  have expansion : ∀ code ∈ source, table.expand form.equivalence code = [code] := by
    intro code member
    have same := alone code member
    rw [normalize_of_decomposing decomposing, decomposeOnto_nil plain,
      List.flatMap_singleton] at same
    -- Canonical order only rearranges the full decomposition, which is then a single code point.
    exact List.perm_singleton.mp (same ▸ arrange_perm _).symm
  rw [normalize_of_decomposing decomposing, decomposeOnto_nil plain,
    List.flatMap_congr expansion, List.flatMap_singleton', arrange_of_ordered ordered]

/-- A mark with no flag set stands for itself, and nothing takes it in. -/
theorem KeepsApart.mark_alone (keeps : table.KeepsApart form) (coherent : table.Coherent)
    (checked : table.Checked) (flagged : table.FlagsReplaced form) {mark : CodePoint}
    (nonzero : table.combiningClass mark ≠ 0)
    (clear : (table.record mark).flags.no form = false ∧
      (table.record mark).flags.maybe form = false) :
    table.expand form.equivalence mark = [mark] ∧
      ∀ starter, table.compose? starter mark = none := by
  have settled := coherent.settled_of_normalize checked
    (flagged.normalize_singleton coherent checked clear.1)
  have alone := settled.expand_mark nonzero
  -- The front of its decomposition is then the mark itself.
  obtain ⟨first, rest, expansion, apart, -⟩ := keeps.front checked (.inr clear)
  rw [alone] at expansion
  obtain ⟨rfl, -⟩ := List.cons.inj expansion
  exact ⟨alone, apart⟩

/-- A composing form leaves a text in order alone, if no code point of it has a flag set.

Every starter is a boundary, and the marks behind it stay with it. -/
theorem KeepsApart.normalize_append (keeps : table.KeepsApart form) (coherent : table.Coherent)
    (checked : table.Checked) (flagged : table.FlagsReplaced form)
    (composing : form.isComposing = true) (source : List CodePoint) {marks : List CodePoint}
    (ordered : Ordered table.combiningClass (source ++ marks))
    (clear : ∀ code ∈ source ++ marks, (table.record code).flags.no form = false ∧
      (table.record code).flags.maybe form = false)
    (nonzero : ∀ mark ∈ marks, table.combiningClass mark ≠ 0) :
    table.normalize form (source ++ marks) = source ++ marks := by
  have plain (code : CodePoint) (small : code < firstWithProperties) :=
    coherent.expand_plain checked form.equivalence small
  have alone (mark : CodePoint) (member : mark ∈ marks) :=
    keeps.mark_alone coherent checked flagged (nonzero mark member) (clear mark (by simp [member]))
  -- Code points go from the end of the source to the marks, up to the next starter.
  induction source using List.reverseRecOn generalizing marks with
  | nil =>
    -- Without a starter there is nothing that could take in a mark.
    rw [List.nil_append] at ordered ⊢
    rw [normalize_of_composing composing, decomposeOnto_nil plain,
      List.flatMap_congr fun mark member => (alone mark member).1, List.flatMap_singleton',
      arrange_of_ordered ordered, composeOnto,
      ComposingBuffer.text_foldl_append fun mark member => (alone mark member).2]
    rfl
  | append_singleton source code ih =>
    rw [List.append_assoc, List.singleton_append] at ordered clear ⊢
    by_cases starter : table.combiningClass code = 0
    · have flags := clear code (by simp)
      have boundary : table.hasBoundaryBefore form code = true := by
        rw [combiningClass] at starter
        simp [hasBoundaryBefore, starter, composing, flags]
      rw [ordered_append, orderedAfter_cons, starter] at ordered
      obtain ⟨orderedBefore, -, orderedMarks⟩ := ordered
      have before : table.normalize form (source ++ []) = source ++ [] := by
        apply ih
        · rwa [List.append_nil]
        · intro other member
          rw [List.append_nil] at member
          exact clear other (by simp [member])
        · simp
        · simp
      rw [List.append_nil] at before
      -- The starter and its marks are a stretch of their own, which recomposes.
      have settled := coherent.settled_of_normalize checked
        (flagged.normalize_singleton coherent checked flags.1)
      rw [normalize_append_cons checked (fun _ => keeps) boundary, before,
        coherent.normalize_cons_marks checked composing settled starter orderedMarks nonzero
          (fun mark member => (alone mark member).1) fun mark member => (alone mark member).2]
    · -- One more mark joins those that are already there.
      apply ih ordered clear
      · intro mark member
        rcases List.mem_cons.mp member with rfl | member
        · exact starter
        · exact nonzero mark member
      · intro mark member
        rcases List.mem_cons.mp member with rfl | member
        · exact keeps.mark_alone coherent checked flagged starter (clear mark (by simp))
        · exact alone mark member

/-- The quick check is right about every text, and a text can always be told to be normalized.

It is undecided in composing forms only. -/
theorem isNormalizedChecked_eq {bytes : List UInt8} (loaded : load bytes = .ok table)
    (coherent : table.Coherent) (flagged : table.FlagsReplaced form)
    (keeps : form.isComposing = true → table.KeepsApart form) (source : List CodePoint) :
    (table.quickCheckText form source = .yes → table.normalize form source = source) ∧
      (table.quickCheckText form source = .no → table.normalize form source ≠ source) ∧
      (table.quickCheckText form source = .maybe → form.isComposing = true) ∧
      ((∀ code ∈ source, code ≤ CodePoint.last) →
        table.isNormalizedChecked form source
          = .ok (decide (table.normalize form source = source))) := by
  have checked := checked_of_load loaded
  have yes (verdict : table.quickCheckText form source = .yes) :
      table.normalize form source = source := by
    obtain ⟨-, ordered, clear⟩ := clear_of_quickCheckFrom coherent.plain verdict
    cases composing : form.isComposing with
    | false =>
      apply coherent.normalize_of_ordered checked composing ordered
      intro code member
      exact flagged.normalize_singleton coherent checked (clear code member).1
    | true =>
      -- No marks are set aside yet.
      rw [← List.append_nil source] at ordered clear ⊢
      exact (keeps composing).normalize_append coherent checked flagged composing source
        ordered clear (by simp)
  have no (verdict : table.quickCheckText form source = .no) :
      table.normalize form source ≠ source := by
    intro same
    -- A normalization is in order and holds nothing that is ruled out.
    have ordered := (coherent.normalized checked form source).1
    rw [same] at ordered
    obtain ⟨code, member, ruled⟩ :=
      ruledOut_of_quickCheckFrom coherent.plain (by simp) verdict ordered
    exact flagged.not_mem_normalize coherent checked ruled source (same.symm ▸ member)
  refine ⟨yes, no, ?_, ?_⟩
  · intro verdict
    exact (composing_of_quickCheckFrom coherent.plain verdict).resolve_left (by simp)
  · intro inside
    -- Only where the quick check is undecided is the text normalized and compared.
    rw [isNormalizedChecked, checkRange_eq_ok_iff.mpr inside]
    simp only [isNormalized]
    cases verdict : table.quickCheckText form source with
    | yes => simp [yes verdict]
    | no => simp [no verdict]
    | maybe => rfl

/-- In the table with one accented letter no code point is ruled out, and none is replaced. -/
theorem flagsReplaced_accents : Accents.table.FlagsReplaced .nfc := by
  intro code _
  have checked := checked_of_load Accents.load_bytes
  -- None of the five records has a flag that rules out.
  have clear : (Accents.table.record code).flags.no .nfc = false := by
    rw [Accents.record_eq]
    split
    · rfl
    split
    · rfl
    split
    · rfl
    split <;> rfl
  have settled : Accents.table.Settled Form.nfc.equivalence code := by
    by_cases accented : code = 0xE9
    · subst accented
      refine ⟨0x65, [0x301], by rw [Accents.expand_eq, if_pos rfl], ?_, ?_,
        .inr ⟨Accents.combiningClass_eq _, Accents.combiningClass_eq _⟩⟩
      · simp [Accents.compose?_accent]
      · simp [Ordered, Accents.combiningClass_eq, InOrder]
    · by_cases syllable : Hangul.isSyllable code
      · exact coherent_accents.settled_syllable checked .canonical syllable
      · exact settled_of_alone (by rw [Accents.expand_eq, if_neg accented, if_neg syllable])
  rw [clear, settled.normalize_singleton coherent_accents checked rfl]
  simp

/-- The quick check accepts the composed letter and leaves it open about the accent. -/
theorem isNormalizedChecked_eq_accents :
    Accents.table.quickCheckText .nfc [0xE9, 0x323] = .yes ∧
      Accents.table.normalize .nfc [0xE9, 0x323] = [0xE9, 0x323] ∧
      Accents.table.quickCheckText .nfc [0x65, 0x323, 0x301] = .maybe ∧
      Accents.table.isNormalizedChecked .nfc [0x65, 0x323, 0x301] = .ok false := by
  -- The acute accent may join with what stands before it, so that the check cannot decide.
  have decides := isNormalizedChecked_eq Accents.load_bytes coherent_accents
    flagsReplaced_accents (fun _ => keepsApart_accents)
  have yes : Accents.table.quickCheckText .nfc [0xE9, 0x323] = .yes := by
    simp only [quickCheckText, quickCheckFrom_cons coherent_accents.plain,
      Accents.combiningClass_eq, Accents.record_eq]
    rfl
  have maybe : Accents.table.quickCheckText .nfc [0x65, 0x323, 0x301] = .maybe := by
    simp only [quickCheckText, quickCheckFrom_cons coherent_accents.plain,
      Accents.combiningClass_eq, Accents.record_eq]
    rfl
  refine ⟨yes, (decides [0xE9, 0x323]).1 yes, maybe, ?_⟩
  have inside : ∀ code ∈ [0x65, 0x323, 0x301], code ≤ CodePoint.last := by simp [CodePoint.last]
  rw [(decides [0x65, 0x323, 0x301]).2.2.2 inside, normalize_accents]
  rfl

end PropertyTable

end UniText
