import UniText.Normalize.Boundary
import UniText.Proofs.Normalize.Frame
import UniText.Proofs.Property.Coherence

/-! Boundaries: the normalization of a text falls apart wherever one is reported. -/

namespace UniText

/-- The decomposition of a code point begins with a given starter, so that no mark moves past it. -/
def PropertyTable.OpensWith (table : PropertyTable) (equivalence : Equivalence)
    (code first : CodePoint) : Prop :=
  if code < firstWithProperties then code = first
  else ∃ rest, table.expand equivalence code = first :: rest ∧ table.combiningClass first = 0

namespace OrderingBuffer

variable {table : PropertyTable} {equivalence : Equivalence}

/-- A starter closes the run, whatever a buffer holds. -/
theorem appendStarter_eq_behind (buffer : OrderingBuffer) (first : CodePoint) :
    buffer.appendStarter first = (onto []).behind (buffer.text ++ [first]) := by
  simp [appendStarter, behind, onto, OrderingBuffer.text]

/-- A decomposition that begins with a starter goes on behind it as in an empty buffer. -/
theorem appendDecomposed_of_opensWith {code first : CodePoint}
    (opens : table.OpensWith equivalence code first) : ∃ fresh : OrderingBuffer, fresh.Fits ∧
      ∀ buffer : OrderingBuffer, buffer.appendDecomposed table equivalence code
        = fresh.behind (buffer.text ++ [first]) := by
  unfold PropertyTable.OpensWith at opens
  by_cases small : code < firstWithProperties
  · rw [if_pos small] at opens
    subst opens
    refine ⟨onto [], fits_onto [], ?_⟩
    intro buffer
    rw [appendDecomposed, if_pos small, appendStarter_eq_behind]
  · rw [if_neg small] at opens
    obtain ⟨rest, expansion, starter⟩ := opens
    refine ⟨rest.foldl (append table) (onto []),
      (foldl_append_behind [] rest (fits_onto [])).2, ?_⟩
    intro buffer
    -- The first part is appended like any starter, and the rest of them behind it.
    have opened : buffer.append table first = buffer.appendStarter first := by
      simp [append, starter]
    rw [appendDecomposed, if_neg small, expansion, List.foldl_cons, opened,
      appendStarter_eq_behind, (foldl_append_behind _ rest (fits_onto [])).1]

end OrderingBuffer

namespace PropertyTable

variable {table : PropertyTable}

/-- Decomposition falls apart before a code point whose decomposition begins with a starter. -/
theorem decomposeOnto_append_cons {equivalence : Equivalence} {code first : CodePoint}
    (opens : table.OpensWith equivalence code first) (rest : List CodePoint) :
    ∃ tail, table.decomposeOnto equivalence [] (code :: rest) = first :: tail ∧
      ∀ before, table.decomposeOnto equivalence [] (before ++ code :: rest)
        = table.decomposeOnto equivalence [] before ++ first :: tail := by
  obtain ⟨fresh, fits, anew⟩ := OrderingBuffer.appendDecomposed_of_opensWith opens
  -- What follows the code point is appended behind the text that ends with the starter.
  have falls (before : List CodePoint) :
      table.decomposeOnto equivalence [] (before ++ code :: rest)
        = table.decomposeOnto equivalence [] before ++ first ::
          (rest.foldl (OrderingBuffer.appendDecomposed table equivalence) fresh).text := by
    unfold decomposeOnto
    rw [List.foldl_append, List.foldl_cons, anew,
      (OrderingBuffer.foldl_appendDecomposed_behind _ rest fits).1, OrderingBuffer.text_behind,
      List.append_assoc]
    rfl
  exact ⟨_, falls [], falls⟩

/-- A starter that nothing takes in begins a new stretch of a composition. -/
theorem composeOnto_append_cons {code : CodePoint} (starter : table.combiningClass code = 0)
    (apart : ∀ first, table.compose? first code = none) (before rest : List CodePoint) :
    table.composeOnto [] (before ++ code :: rest)
      = table.composeOnto [] before ++ table.composeOnto [] (code :: rest) := by
  unfold composeOnto
  rw [List.foldl_append, List.foldl_cons, List.foldl_cons]
  generalize before.foldl (ComposingBuffer.append table) (.onto []) = buffer
  -- What the starter leaves behind counts as text only.
  have alone (other : ComposingBuffer) :
      other.append table code = ⟨other.reversed, some code, [], 0⟩ := by
    simp [ComposingBuffer.append, starter, ComposingBuffer.composite?_eq_none apart]
  have anew : buffer.append table code
      = ((ComposingBuffer.onto []).append table code).behind buffer.text := by
    rw [alone, alone]
    simp [ComposingBuffer.behind, ComposingBuffer.text, ComposingBuffer.reversed,
      ComposingBuffer.onto]
  rw [anew, ComposingBuffer.foldl_append_behind, ComposingBuffer.text_behind]

/-- What a composing form relies on at the boundaries that it reports.

These are facts about the characters, which loading does not check. -/
structure KeepsApart (table : PropertyTable) (form : Form) : Prop where
  /-- Code points that are never looked up have no properties. -/
  plain : ∀ code < firstWithProperties, table.record code = .default
  /-- The full decomposition of a code point that the form leaves alone begins with one that
  nothing takes in, and with a starter if the code point is one. -/
  apart : ∀ code ≤ CodePoint.last, (table.record code).flags.no form = false →
    (table.record code).flags.maybe form = false →
      ∀ first ∈ (table.expand form.equivalence code).head?,
        (∀ starter, table.compose? starter first = none) ∧
          (table.combiningClass code = 0 → table.combiningClass first = 0)

/-- Nothing takes in the front of a code point that a composing form leaves alone.

It is a starter if the code point is one, and it opens the decomposition. -/
theorem KeepsApart.front {form : Form} (keeps : table.KeepsApart form) (checked : table.Checked)
    {code : CodePoint} (clear : code < firstWithProperties ∨
      (table.record code).flags.no form = false ∧ (table.record code).flags.maybe form = false) :
    ∃ first rest, table.expand form.equivalence code = first :: rest ∧
      (∀ starter, table.compose? starter first = none) ∧
      (table.combiningClass code = 0 → table.combiningClass first = 0) := by
  obtain ⟨first, rest, expansion⟩ :=
    List.exists_cons_of_ne_nil (checked.expand_ne_nil form.equivalence code)
  refine ⟨first, rest, expansion, ?_⟩
  -- What is never looked up has no flags either.
  obtain ⟨no, maybe⟩ : (table.record code).flags.no form = false ∧
      (table.record code).flags.maybe form = false := by
    rcases clear with small | flags
    · -- The default record has no flags.
      rw [keeps.plain code small]
      cases form <;> exact ⟨rfl, rfl⟩
    · exact flags
  by_cases inside : code ≤ CodePoint.last
  · exact keeps.apart code inside no maybe first (by simp [expansion])
  · -- A value outside the code space stands for itself.
    have beyond := UInt32.not_le.mp inside
    rw [checked.expand_of_beyond _ beyond] at expansion
    obtain ⟨rfl, -⟩ := List.cons.inj expansion
    exact ⟨checked.compose?_of_beyond beyond, id⟩

/-- A decomposing form reports a boundary where a decomposition begins with a starter. -/
theorem opensWith_of_boundary {form : Form} (decomposing : form.isComposing = false)
    {code : CodePoint} (boundary : table.hasBoundaryBefore form code = true) :
    ∃ first, table.OpensWith form.equivalence code first := by
  unfold hasBoundaryBefore at boundary
  unfold OpensWith
  by_cases small : code < firstWithProperties
  · exact ⟨code, by rw [if_pos small]⟩
  · -- The first part of the decomposition was looked at, and is a starter.
    simp only [if_neg small, decomposing, Bool.false_eq_true, if_false] at boundary ⊢
    split at boundary
    · simp at boundary
    · split at boundary
      · simp at boundary
      · next first rest expansion =>
        exact ⟨first, rest, expansion, by simpa using boundary⟩

/-- A composing form reports a boundary at a starter that it leaves alone. -/
theorem clear_of_boundary {form : Form} (composing : form.isComposing = true) {code : CodePoint}
    (boundary : table.hasBoundaryBefore form code = true) : code < firstWithProperties ∨
      table.combiningClass code = 0 ∧ (table.record code).flags.no form = false ∧
        (table.record code).flags.maybe form = false := by
  unfold hasBoundaryBefore at boundary
  by_cases small : code < firstWithProperties
  · exact .inl small
  -- Only the class and the flags were looked at.
  · simp only [if_neg small, composing, if_true] at boundary
    split at boundary
    · simp at boundary
    · next starter =>
      simp only [Bool.not_eq_true', Bool.or_eq_false_iff] at boundary
      exact .inr ⟨Decidable.not_not.mp starter, boundary⟩

/-- At a boundary of a composing form, a starter begins that nothing takes in. -/
theorem KeepsApart.opensWith {form : Form} (keeps : table.KeepsApart form)
    (checked : table.Checked) {code : CodePoint}
    (clear : code < firstWithProperties ∨ table.combiningClass code = 0 ∧
      (table.record code).flags.no form = false ∧ (table.record code).flags.maybe form = false) :
    ∃ first, table.OpensWith form.equivalence code first ∧ table.combiningClass first = 0 ∧
      ∀ starter, table.compose? starter first = none := by
  have starter : table.combiningClass code = 0 := by
    rcases clear with small | ⟨starter, -⟩
    · rw [combiningClass, keeps.plain code small]
      rfl
    · exact starter
  -- The code point is a starter, and so is the front of its decomposition.
  obtain ⟨first, rest, expansion, apart, opens⟩ := keeps.front checked (clear.imp id And.right)
  refine ⟨first, ?_, opens starter, apart⟩
  unfold OpensWith
  split
  · next small =>
    rw [checked.expand_of_small _ small (keeps.plain code small)] at expansion
    exact (List.cons.inj expansion).1
  · exact ⟨rest, expansion, opens starter⟩

/-- The normalization of a text falls apart before every boundary. -/
theorem normalize_append_cons (checked : table.Checked) {form : Form}
    (keeps : form.isComposing = true → table.KeepsApart form) {code : CodePoint}
    (boundary : table.hasBoundaryBefore form code = true) (before rest : List CodePoint) :
    table.normalize form (before ++ code :: rest)
      = table.normalize form before ++ table.normalize form (code :: rest) := by
  unfold normalize normalizeOnto
  cases composing : form.isComposing with
  | false =>
    -- Whatever a decomposition begins with, the starter at its front stays where it is.
    obtain ⟨first, opens⟩ := opensWith_of_boundary composing boundary
    obtain ⟨tail, alone, falls⟩ := decomposeOnto_append_cons opens rest
    simp [falls, alone]
  | true =>
    -- That starter also begins a new stretch of the composition.
    obtain ⟨first, opens, starter, apart⟩ :=
      (keeps composing).opensWith checked (clear_of_boundary composing boundary)
    obtain ⟨tail, alone, falls⟩ := decomposeOnto_append_cons opens rest
    simp [falls, alone, composeOnto_append_cons starter apart]

/-- An accent is taken in by its letter, past a mark of a lower class that is not. -/
theorem normalize_letter_marks {letter mark accent composite : CodePoint}
    (small : letter < firstWithProperties) (starter : table.combiningClass letter = 0)
    (looked : ¬mark < firstWithProperties ∧ ¬accent < firstWithProperties)
    (markAlone : table.expand .canonical mark = [mark])
    (accentAlone : table.expand .canonical accent = [accent])
    (nonzero : table.combiningClass mark ≠ 0)
    (lower : table.combiningClass mark < table.combiningClass accent)
    (apart : table.compose? letter mark = none)
    (composed : table.compose? letter accent = some composite) :
    table.normalize .nfc [letter, mark, accent] = [composite, mark] := by
  have above : table.combiningClass accent ≠ 0 := by
    intro zero
    simp [zero] at lower
  -- The three are in order, and none of them decomposes.
  have parts : table.decomposeOnto .canonical [] [letter, mark, accent]
      = [letter, mark, accent] := by
    simp [decomposeOnto, OrderingBuffer.appendDecomposed, small, looked, markAlone,
      accentAlone, OrderingBuffer.append, OrderingBuffer.appendStarter, nonzero, above,
      UInt8.le_of_lt lower, OrderingBuffer.onto, OrderingBuffer.text]
  have joined : table.composeOnto [] [letter, mark, accent] = [composite, mark] := by
    simp [composeOnto, ComposingBuffer.append, ComposingBuffer.composite?, starter,
      nonzero, lower, apart, composed, ComposingBuffer.onto, ComposingBuffer.text,
      ComposingBuffer.reversed]
  simpa [normalize, normalizeOnto, Form.isComposing, Form.equivalence,
    Form.isCompatibility, parts] using joined

/-- The table with one accented letter keeps apart what composition relies on. -/
theorem keepsApart_accents : Accents.table.KeepsApart .nfc where
  plain := coherent_accents.plain
  apart code _ _ maybe first opens := by
    rw [Accents.expand_eq] at opens
    split at opens
    · -- The accented letter opens with the letter alone.
      obtain rfl : first = 0x65 := by simpa using opens.symm
      exact ⟨Accents.compose?_eq_none (by decide) (by decide) (by decide),
        fun _ => Accents.combiningClass_eq 0x65⟩
    split at opens
    · next syllable =>
      obtain ⟨leading, rest, letters_, isLeading_, -⟩ := Hangul.foldlM_join_letters syllable
      obtain rfl : first = leading := by simpa [letters_] using opens.symm
      rw [Hangul.isLeading_iff] at isLeading_
      -- A leading letter is no vowel, no trailing letter and no accent.
      refine ⟨Accents.compose?_eq_none ?_ ?_ ?_, ?_⟩
      · rw [Bool.eq_false_iff, Ne, Hangul.isVowel_iff]
        omega
      · rw [Bool.eq_false_iff, Ne, Hangul.isTrailing_iff]
        omega
      · rintro rfl
        simp at isLeading_
      · intro _
        apply coherent_accents.starters
        simp [Hangul.isLetter, Hangul.isLeading_iff, isLeading_]
    · obtain rfl : first = code := by simpa using opens.symm
      -- What something may take in has the flag that leaves it open.
      have other : first ≠ 0x301 := by
        rintro rfl
        rw [Accents.record_eq] at maybe
        exact absurd maybe (by decide)
      obtain ⟨vowel, trailing⟩ :
          Hangul.isVowel first = false ∧ Hangul.isTrailing first = false := by
        rw [← Bool.or_eq_false_iff]
        by_contra letter
        rw [Bool.not_eq_false] at letter
        have large : 0x1100 ≤ first.toNat := by
          rw [Bool.or_eq_true, Hangul.isVowel_iff, Hangul.isTrailing_iff] at letter
          omega
        rw [Accents.record_of_large large, if_pos letter] at maybe
        exact absurd maybe (by decide)
      exact ⟨Accents.compose?_eq_none vowel trailing other, id⟩

/-- The accented letter is composed past the mark of the lower class. -/
theorem normalize_accents : Accents.table.normalize .nfc [0x65, 0x323, 0x301] = [0xE9, 0x323] :=
  -- The acute accent passes the dot below and joins with the letter.
  normalize_letter_marks (by decide) (Accents.combiningClass_eq _) (by decide)
    (Accents.expand_eq _ _) (Accents.expand_eq _ _)
    (by rw [Accents.combiningClass_eq]; decide)
    (by rw [Accents.combiningClass_eq, Accents.combiningClass_eq]; decide)
    (Accents.compose?_eq_none (by decide) (by decide) (by decide) _) Accents.compose?_accent

/-- A text may be cut before every code point at which a boundary is reported.

The two parts are normalized apart, whatever stands on the two sides of the cut. -/
theorem normalize_append_of_boundary {bytes : List UInt8} (loaded : load bytes = .ok table)
    {form : Form} (keeps : form.isComposing = true → table.KeepsApart form) {code : CodePoint}
    (boundary : table.hasBoundaryBefore form code = true) (before rest : List CodePoint) :
    table.normalize form (before ++ [code] ++ rest)
      = table.normalize form before ++ table.normalize form ([code] ++ rest) := by
  -- The rest begins with the code point that nothing before can join with.
  rw [List.append_assoc]
  exact normalize_append_cons (checked_of_load loaded) keeps boundary before rest

/-- An accented letter is cut off from a letter and a mark before it, with marks to come. -/
theorem normalize_append_of_boundary_accents :
    load Accents.bytes = .ok Accents.table ∧ Accents.table.KeepsApart .nfc ∧
      Accents.table.hasBoundaryBefore .nfc 0xE9 = true ∧
      Accents.table.normalize .nfc ([0x65, 0x323] ++ [0xE9] ++ [0x323, 0x301])
        = Accents.table.normalize .nfc [0x65, 0x323]
          ++ Accents.table.normalize .nfc ([0xE9] ++ [0x323, 0x301]) := by
  -- An accented letter is a starter that no other letter takes in.
  have boundary : Accents.table.hasBoundaryBefore .nfc 0xE9 = true := by
    have looked : ¬(0xE9 : CodePoint) < firstWithProperties := by decide
    rw [hasBoundaryBefore, if_neg looked, Accents.record_eq]
    rfl
  exact ⟨Accents.load_bytes, keepsApart_accents, boundary,
    normalize_append_of_boundary Accents.load_bytes (fun _ => keepsApart_accents) boundary _ _⟩

end PropertyTable

end UniText
