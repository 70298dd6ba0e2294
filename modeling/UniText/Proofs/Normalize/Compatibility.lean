import UniText.Proofs.Normalize.Recomposing
import UniText.Proofs.Property.Listed

/-! Compatibility forms absorb canonical ones, and canonical forms keep what they make. -/

namespace UniText

section Arrange

variable {classOf : CodePoint → UInt8} {expand : CodePoint → List CodePoint}

/-- Sources that are arranged to the same text still are with the same code points behind them. -/
theorem arrange_append_congr {one other : List CodePoint}
    (same : arrange classOf one = arrange classOf other) (rest : List CodePoint) :
    arrange classOf (one ++ rest) = arrange classOf (other ++ rest) := by
  -- What follows is put in place behind what is in order by then.
  rw [arrange, arrange, List.foldl_append, List.foldl_append, List.reverse_inj.mp same]

/-- A mark may be put to its place before the text is expanded, if no mark expands. -/
theorem arrange_flatMap_place {reversed : List CodePoint} {code : CodePoint}
    (alone : ∀ mark ∈ code :: reversed, classOf mark ≠ 0 → expand mark = [mark]) :
    arrange classOf ((place classOf reversed code).reverse.flatMap expand)
      = arrange classOf ((reversed.reverse ++ [code]).flatMap expand) := by
  -- The mark goes past those of higher classes one by one, from the end of the text.
  induction reversed with
  | nil => rfl
  | cons other reversed ih =>
    unfold place
    split
    · next below =>
      obtain ⟨mark, less⟩ := below
      have otherMark : classOf other ≠ 0 := by
        intro zero
        rw [zero, UInt8.lt_iff_toNat_lt] at less
        exact Nat.not_lt_zero _ less
      have one : expand code = [code] := alone code (by simp) mark
      have two : expand other = [other] := alone other (by simp) otherMark
      have before := ih fun mark member => alone mark (by
        rcases List.mem_cons.mp member with rfl | member
        · simp
        · simp [member])
      -- Both are marks of different classes, and may be swapped after the expansion as well.
      have apart : ∀ mark ∈ [other], classOf mark ≠ 0 ∧ classOf mark ≠ classOf code := by
        simpa using ⟨otherMark, (UInt8.ne_of_lt less).symm⟩
      have swap := arrange_comm mark apart (reversed.reverse.flatMap expand) []
      calc arrange classOf ((other :: place classOf reversed code).reverse.flatMap expand)
          = arrange classOf ((place classOf reversed code).reverse.flatMap expand ++ [other]) := by
            simp [two]
        _ = arrange classOf ((reversed.reverse ++ [code]).flatMap expand ++ [other]) :=
            arrange_append_congr before [other]
        _ = arrange classOf (((other :: reversed).reverse ++ [code]).flatMap expand) := by
            simpa [one, two] using swap
    · simp

/-- A text may be arranged before it is expanded, if no mark expands. -/
theorem arrange_flatMap_arrange {source : List CodePoint}
    (alone : ∀ mark ∈ source, classOf mark ≠ 0 → expand mark = [mark]) :
    arrange classOf ((arrange classOf source).flatMap expand)
      = arrange classOf (source.flatMap expand) := by
  -- One code point at a time is put to those before it.
  induction source using List.reverseRecOn with
  | nil => rfl
  | append_singleton source code ih =>
    have before := ih fun mark member => alone mark (by simp [member])
    rw [arrange_append_singleton, arrange_flatMap_place, List.reverse_reverse,
      List.flatMap_append, List.flatMap_append, arrange_append_congr before]
    intro mark member
    exact alone mark (by simpa [or_comm] using member)

end Arrange

namespace PropertyTable

variable {table : PropertyTable} {form : Form}

/-- The canonical decomposition of a code point decomposes on to its compatibility one. -/
theorem Coherent.flatMap_expand_canonical (coherent : table.Coherent) (checked : table.Checked)
    (code : CodePoint) :
    (table.expand .canonical code).flatMap (table.expand .compatibility)
      = table.expand .compatibility code := by
  induction code using checked.mapping_induction with
  | syllable code syllable =>
    -- The letters of a syllable stand for themselves.
    have alone : ∀ letter ∈ Hangul.letters code, table.expand .compatibility letter = [letter] := by
      intro letter member
      exact coherent.expand_letter checked _ (Hangul.isLetter_of_mem_letters syllable member)
    rw [checked.expand_of_syllable _ syllable, checked.expand_of_syllable _ syllable,
      List.flatMap_congr alone, List.flatMap_singleton']
  | mapped code plain ih =>
    cases mapped : table.mapping? .canonical (table.record code) with
    | none =>
      have itself : table.expand .canonical code = [code] :=
        checked.expand_of_indivisible ⟨plain, mapped⟩
      rw [itself, List.flatMap_singleton]
    | some codes =>
      obtain ⟨rfl, -⟩ := checked.mapping?_ne_nil mapped
      -- A canonical mapping counts under both equivalences.
      have both : table.mapping? .compatibility (table.record code)
          = some (table.mappingOf (table.record code)) := by
        simp only [mapping?, Option.ite_none_right_eq_some, Bool.and_eq_true] at mapped ⊢
        simpa using mapped.1.1
      rw [checked.expand_of_mapped plain mapped, checked.expand_of_mapped plain both,
        List.flatMap_assoc]
      exact List.flatMap_congr ih

/-- A record has no mapping that an equivalence admits if it has none, or one for the other. -/
theorem mapping?_eq_none_iff {equivalence : Equivalence} {record : Record} :
    table.mapping? equivalence record = none ↔
      (record.mappingLength ≠ 0 → equivalence = .canonical ∧ record.kind ≠ .canonical) := by
  -- Only the compatibility equivalence makes use of every mapping.
  cases equivalence <;> simp [mapping?]

/-- What compatibility leaves alone, canonical equivalence leaves alone. -/
theorem Indivisible.canonical {code : CodePoint}
    (indivisible : table.Indivisible .compatibility code) : table.Indivisible .canonical code := by
  -- A canonical mapping would be one for compatibility as well.
  obtain ⟨plain, unmapped⟩ := indivisible
  refine ⟨plain, mapping?_eq_none_iff.mpr fun nonempty => ?_⟩
  exact absurd (mapping?_eq_none_iff.mp unmapped nonempty).1 (by decide)

/-- Marks have canonical mappings only.

This is a fact about the characters, which loading does not check. -/
def CanonicalMarks (table : PropertyTable) : Prop :=
  ∀ code, table.combiningClass code ≠ 0 → (table.record code).mappingLength ≠ 0 →
    (table.record code).kind = .canonical

/-- The marks of a canonical decomposition stand for themselves under compatibility. -/
theorem Coherent.expand_mark (coherent : table.Coherent) (checked : table.Checked)
    (marks : table.CanonicalMarks) {code mark : CodePoint}
    (member : mark ∈ table.expand .canonical code) (isMark : table.combiningClass mark ≠ 0) :
    table.expand .compatibility mark = [mark] := by
  obtain ⟨plain, unmapped⟩ := coherent.indivisible_of_mem_expand checked member
  refine checked.expand_of_indivisible ⟨plain, mapping?_eq_none_iff.mpr fun nonempty => ?_⟩
  -- The mapping of a mark would be canonical, and would have been followed.
  exact absurd (marks mark isMark nonempty) (mapping?_eq_none_iff.mp unmapped nonempty).2

/-- Compatibility decomposition may follow canonical decomposition. -/
theorem Coherent.decompose_decompose_canonical (coherent : table.Coherent)
    (checked : table.Checked) (marks : table.CanonicalMarks) (source : List CodePoint) :
    table.decomposeOnto .compatibility [] (table.decomposeOnto .canonical [] source)
      = table.decomposeOnto .compatibility [] source := by
  have plain (equivalence : Equivalence) : ∀ code < firstWithProperties,
      table.combiningClass code = 0 ∧ table.expand equivalence code = [code] :=
    fun _ small => coherent.expand_plain checked equivalence small
  rw [decomposeOnto_nil (plain .canonical), decomposeOnto_nil (plain .compatibility),
    decomposeOnto_nil (plain .compatibility), arrange_flatMap_arrange, List.flatMap_assoc,
    List.flatMap_congr fun code _ => coherent.flatMap_expand_canonical checked code]
  -- What is arranged in between comes from canonical decompositions.
  intro mark member isMark
  obtain ⟨code, -, member⟩ := List.mem_flatMap.mp member
  exact coherent.expand_mark checked marks member isMark

/-- Compatibility decomposition makes the same of a text as of any normalization of it. -/
theorem Coherent.decompose_normalize (coherent : table.Coherent) (checked : table.Checked)
    (marks : table.CanonicalMarks) (form : Form) (source : List CodePoint) :
    table.decomposeOnto .compatibility [] (table.normalize form source)
      = table.decomposeOnto .compatibility [] source := by
  have canonical := coherent.decompose_decompose_canonical checked marks
  have apart := coherent.decompose_compose_decompose checked
  cases form with
  | nfd => exact canonical source
  | nfkd => exact coherent.decompose_decompose checked .compatibility source
  | nfkc => exact apart .compatibility source
  | nfc =>
    -- What composition has joined is taken apart canonically first.
    calc table.decomposeOnto .compatibility [] (table.normalize .nfc source)
        = table.decomposeOnto .compatibility []
            (table.decomposeOnto .canonical [] (table.normalize .nfc source)) :=
          (canonical _).symm
      _ = table.decomposeOnto .compatibility [] (table.decomposeOnto .canonical [] source) :=
          congrArg _ (apart .canonical source)
      _ = table.decomposeOnto .compatibility [] source := canonical source

/-- Canonical decomposition of a compatibility form gives the compatibility decomposition. -/
theorem Coherent.decompose_canonical_normalize (coherent : table.Coherent)
    (checked : table.Checked) (compatible : form.isCompatibility = true)
    (source : List CodePoint) :
    table.decomposeOnto .canonical [] (table.normalize form source)
      = table.decomposeOnto .compatibility [] source := by
  have ordered := (coherent.decomposed checked .compatibility source).1
  -- No part of the decomposition has a canonical mapping either.
  have alone : ∀ part ∈ table.decomposeOnto .compatibility [] source,
      table.expand .canonical part = [part] := by
    intro part member
    rw [decomposeOnto_nil fun _ small => coherent.expand_plain checked _ small, mem_arrange,
      List.mem_flatMap] at member
    obtain ⟨code, -, member⟩ := member
    exact checked.expand_of_indivisible
      (coherent.indivisible_of_mem_expand checked member).canonical
  have equivalence : form.equivalence = .compatibility := if_pos compatible
  cases composing : form.isComposing with
  | true =>
    rw [normalize_of_composing composing, equivalence]
    exact coherent.decompose_compose checked ordered alone
  | false =>
    rw [normalize_of_decomposing composing, equivalence,
      decomposeOnto_nil fun _ small => coherent.expand_plain checked .canonical small,
      List.flatMap_congr alone, List.flatMap_singleton', arrange_of_ordered ordered]

/-- Each compatibility form makes the same of a text as of any normalization of it.

Canonical forms of what a compatibility form has made are the compatibility forms themselves. -/
theorem normalize_compatibility {bytes : List UInt8} (loaded : load bytes = .ok table)
    (coherent : table.Coherent) (marks : table.CanonicalMarks) (source : List CodePoint) :
    (∀ form, table.normalize .nfkd (table.normalize form source) = table.normalize .nfkd source ∧
        table.normalize .nfkc (table.normalize form source) = table.normalize .nfkc source) ∧
      ∀ form, form.isCompatibility = true →
        table.normalize .nfc (table.normalize form source) = table.normalize .nfkc source ∧
          table.normalize .nfd (table.normalize form source) = table.normalize .nfkd source := by
  have checked := checked_of_load loaded
  -- Composing forms compose the same decomposition.
  refine ⟨fun form => ?_, fun form compatible => ?_⟩
  · have same := coherent.decompose_normalize checked marks form source
    exact ⟨same, congrArg (table.composeOnto []) same⟩
  · have same := coherent.decompose_canonical_normalize checked compatible source
    exact ⟨congrArg (table.composeOnto []) same, same⟩

end PropertyTable

namespace Spacing

/-- Two marks, an accented letter, and an accent that is compatible with a space and a mark. -/
def entries : List (CodePoint × Record) :=
  [(0x301, ⟨230, .empty, .unmapped, 0, 0⟩), (0x323, ⟨220, .empty, .unmapped, 0, 0⟩),
    (0xE9, ⟨0, .empty, .canonical, 2, 0⟩), (0xB4, ⟨0, .empty, .compatible, 2, 2⟩)]

/-- The letter and the accent are mapped to what carries the mark, and to the mark. -/
def mapping : List CodePoint := [0x65, 0x301, 0x20, 0x301]

/-- Only the accented letter is a composite. -/
def compositions : List Composition := [⟨0x65, 0x301, 0xE9⟩]

/-- The properties as a table. -/
def table : PropertyTable := Listed.table entries mapping compositions

/-- The properties can be stored. -/
theorem fits : Listed.Fits entries mapping compositions where
  -- The lists are short and closed, so each condition runs.
  inside := by decide
  few := by decide
  small := by decide
  mapped := by decide
  targets := by decide
  ascending := by decide
  composable := by decide

/-- The properties are loaded from their stored form. -/
theorem load_bytes :
    PropertyTable.load (Listed.bytes entries mapping compositions) = .ok table :=
  Listed.load_bytes fits (by decide)

/-- The accented letter is what its pair composes to. -/
theorem coherent : table.Coherent := Listed.coherent fits (by decide) (by decide)

/-- The marks of the table have no mapping. -/
theorem canonicalMarks : table.CanonicalMarks := by
  -- None of the marks that are listed has a mapping, and what is not listed is no mark.
  have listed : ∀ entry ∈ entries, entry.2.combiningClass ≠ 0 → entry.2.mappingLength = 0 := by
    decide
  intro code isMark mapped
  rw [PropertyTable.combiningClass, table, Listed.record_eq fits] at isMark
  rw [table, Listed.record_eq fits] at mapped
  rcases Listed.recordOf_mem_or_default entries code with member | plain
  · exact absurd (listed _ member isMark) mapped
  · exact absurd (by rw [plain]; rfl) mapped

/-- Each code point has the class of its entry. -/
theorem combiningClass_eq :
    table.combiningClass = fun code => (Listed.recordOf entries code).combiningClass := by
  -- The class is that of the listed record.
  funext code
  rw [PropertyTable.combiningClass, table, Listed.record_eq fits]

/-- The accent decomposes to a space and a mark, and the lower mark stands for itself. -/
theorem expand_accent :
    [0xB4, 0x323].flatMap (table.expand .compatibility) = [0x20, 0x301, 0x323] := by
  have checked := PropertyTable.checked_of_load load_bytes
  -- What the accent is mapped to, and the lower mark, have no mappings themselves.
  have space : table.expand .compatibility 0x20 = [0x20] :=
    Listed.expand_of_unmapped fits (by decide) .compatibility (by decide) (by decide)
  have mark : table.expand .compatibility 0x301 = [0x301] :=
    Listed.expand_of_unmapped fits (by decide) .compatibility (by decide) (by decide)
  have lower : table.expand .compatibility 0x323 = [0x323] :=
    Listed.expand_of_unmapped fits (by decide) .compatibility (by decide) (by decide)
  have mapped : table.mapping? .compatibility (table.record 0xB4) = some [0x20, 0x301] := by
    rw [PropertyTable.mapping?, table, Listed.record_eq fits, Listed.mappingOf_eq]
    rfl
  have accent : table.expand .compatibility 0xB4 = [0x20, 0x301] := by
    rw [checked.expand_of_mapped (by decide) mapped]
    simp [space, mark]
  simp [accent, lower]

/-- The lower mark goes before the one that the accent is mapped to. -/
theorem decompose_accent :
    table.decomposeOnto .compatibility [] [0xB4, 0x323] = [0x20, 0x323, 0x301] := by
  -- The spacing accent brings its mark along, which goes behind the dot below.
  have checked := PropertyTable.checked_of_load load_bytes
  have classes : [0x20, 0x301, 0x323].map table.combiningClass = [0, 230, 220] := by
    rw [combiningClass_eq]
    rfl
  simp only [List.map_cons, List.map_nil, List.cons.injEq, and_true] at classes
  rw [PropertyTable.decomposeOnto_nil fun _ small => coherent.expand_plain checked _ small,
    expand_accent]
  simp [arrange, place, classes]

/-- The mark of the accent goes past a lower one, though canonical forms leave the accent whole. -/
theorem normalize_compatibility_accent :
    PropertyTable.load (Listed.bytes entries mapping compositions) = .ok table ∧
      table.Coherent ∧ table.CanonicalMarks ∧ Form.nfkc.isCompatibility = true ∧
      table.normalize .nfkd (table.normalize .nfc [0xB4, 0x323]) = [0x20, 0x323, 0x301] ∧
      table.normalize .nfd (table.normalize .nfkc [0xB4, 0x323]) = [0x20, 0x323, 0x301] := by
  -- The two decompositions are taken of canonical and of compatible forms.
  obtain ⟨decomposed, recomposed⟩ :=
    PropertyTable.normalize_compatibility load_bytes coherent canonicalMarks [0xB4, 0x323]
  refine ⟨load_bytes, coherent, canonicalMarks, rfl, ?_, ?_⟩
  · exact (decomposed .nfc).1.trans decompose_accent
  · exact (recomposed .nfkc rfl).2.trans decompose_accent

end Spacing

end UniText
