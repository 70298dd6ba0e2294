import UniText.Proofs.Charset.Surrogates
import UniText.Proofs.Normalize.Composing
import UniText.Proofs.Normalize.Safety

/-! Surrogates in normalization: no two of them join, so that UTF-16 is normalized as a text. -/

namespace UniText

/-- A text that has come from a source, without a pair and without a new lead at its end. -/
structure StaysUnpaired (source text : List CodePoint) : Prop where
  unpaired : Unpaired text
  /-- A trail that may stand behind the source may stand behind the text as well. -/
  ends : ∀ lead ∈ text.getLast?, lead.isLead = true → source.getLast? = some lead

/-- The same code point may be put behind a source and behind a text that has come from it. -/
theorem StaysUnpaired.push {source text : List CodePoint} (keeps : StaysUnpaired source text)
    {code : CodePoint} (unpaired : Unpaired (source ++ [code])) :
    StaysUnpaired (source ++ [code]) (text ++ [code]) := by
  -- Where the text ends in a lead, so does the source, which has no trail behind it.
  have behind := (List.isChain_append.mp unpaired).2.2
  constructor
  · refine List.isChain_append.mpr ⟨keeps.unpaired, .singleton _, ?_⟩
    intro lead last other same pair
    exact behind lead (keeps.ends lead last pair.1) other same pair
  · simp

/-- A code point that is no surrogate may stand before others that are none. -/
theorem staysUnpaired_of_bare {front back : List CodePoint} {code : CodePoint}
    (before : Unpaired front) (behind : Unpaired back) (bare : code.isSurrogate = false)
    (others : ∀ other ∈ back, other.isSurrogate = false) (source : List CodePoint) :
    StaysUnpaired source (front ++ code :: back) := by
  obtain ⟨noLead, noTrail⟩ := CodePoint.isLead_isTrail_of_bare bare
  constructor
  · -- The code point joins neither what is before it nor what is behind it.
    refine List.isChain_append.mpr ⟨before, List.isChain_cons.mpr ⟨?_, behind⟩, ?_⟩
    · simp [noLead]
    · simp [noTrail]
  · intro lead last leading
    -- The last code point is one of those that are no surrogates.
    have member : lead ∈ code :: back := by
      rw [List.getLast?_append_of_ne_nil _ (List.cons_ne_nil _ _)] at last
      exact List.mem_of_getLast? last
    have surrogate : lead.isSurrogate = false := by
      rcases List.mem_cons.mp member with rfl | member
      · exact bare
      · exact others lead member
    simp [(CodePoint.isLead_isTrail_of_bare surrogate).1] at leading

/-- Surrogates have no properties in a table, and take no part in mappings and compositions. -/
structure PropertyTable.SparesSurrogates (table : PropertyTable) : Prop where
  plain : ∀ code : CodePoint, code.isSurrogate = true → table.record code = .default
  unmapped : ∀ code, ∀ part ∈ table.mappingOf (table.record code), part.isSurrogate = false
  uncomposed : ∀ composition ∈ table.compositions, composition.first.isSurrogate = false ∧
    composition.second.isSurrogate = false ∧ composition.composite.isSurrogate = false

namespace PropertyTable.SparesSurrogates

variable {table : PropertyTable}

/-- A surrogate is a starter. -/
theorem combiningClass_eq_zero (spares : table.SparesSurrogates) {code : CodePoint}
    (surrogate : code.isSurrogate = true) : table.combiningClass code = 0 := by
  -- Surrogates have the default record.
  rw [combiningClass, spares.plain code surrogate]
  rfl

/-- A mark is no surrogate. -/
theorem bare_of_mark (spares : table.SparesSurrogates) {code : CodePoint}
    (mark : table.combiningClass code ≠ 0) : code.isSurrogate = false := by
  -- A surrogate is a starter.
  rw [Bool.eq_false_iff]
  intro surrogate
  exact mark (spares.combiningClass_eq_zero surrogate)

end PropertyTable.SparesSurrogates

namespace PropertyTable

variable {table : PropertyTable} {equivalence : Equivalence}

/-- A surrogate stands for itself. -/
theorem Checked.expand_of_surrogate (checked : table.Checked) (spares : table.SparesSurrogates)
    (equivalence : Equivalence) {code : CodePoint} (surrogate : code.isSurrogate = true) :
    table.expand equivalence code = [code] := by
  -- The surrogates lie behind the syllables and have no mapping.
  refine checked.expand_of_unmapped equivalence ?_ (by rw [spares.plain code surrogate]; rfl)
  rw [CodePoint.isSurrogate_iff] at surrogate
  rw [Bool.eq_false_iff, Ne, Hangul.isSyllable_iff]
  omega

/-- No surrogates come from what is none. -/
theorem Checked.bare_of_mem_expand (checked : table.Checked) (spares : table.SparesSurrogates)
    {code part : CodePoint} (bare : code.isSurrogate = false)
    (member : part ∈ table.expand equivalence code) : part.isSurrogate = false := by
  -- The letters of syllables lie far below the surrogates.
  refine checked.of_mem_expand (fun letter isLetter => ?_) spares.unmapped bare member
  rw [Hangul.isLetter_iff] at isLetter
  rw [Bool.eq_false_iff, Ne, CodePoint.isSurrogate_iff]
  omega

/-- Surrogates take no part in composition. -/
theorem SparesSurrogates.bare_of_compose? (spares : table.SparesSurrogates)
    {first second composite : CodePoint}
    (composed : table.compose? first second = some composite) :
    composite.isSurrogate = false := by
  -- Syllables come before the surrogates, and no composition that is listed gives one.
  rcases eq_of_compose? composed with joined | ⟨listed, -⟩
  · have syllable := Hangul.isSyllable_iff.mp (Hangul.letters_of_join joined).1
    rw [Bool.eq_false_iff, Ne, CodePoint.isSurrogate_iff]
    omega
  · exact (spares.uncomposed _ listed).2.2

end PropertyTable

namespace OrderingBuffer

variable {table : PropertyTable} {equivalence : Equivalence}

/-- A mark goes below marks of a greater class, and leaves all others where they are. -/
theorem exists_insertMark (classOf : CodePoint → UInt8) (mark : CodePoint) (markClass : UInt8)
    (limit : Nat) (reversed : List CodePoint) : ∃ above below, reversed = above ++ below ∧
      insertMark classOf mark markClass limit reversed = above ++ mark :: below ∧
      ∀ other ∈ above, markClass < classOf other := by
  -- The mark goes past those with greater classes and no further.
  fun_induction insertMark classOf mark markClass limit reversed with
  | case1 reversed => exact ⟨[], reversed, rfl, rfl, by simp⟩
  | case2 => exact ⟨[], [], rfl, rfl, by simp⟩
  | case3 limit code reversed less ih =>
    obtain ⟨above, below, rfl, same, greater⟩ := ih
    exact ⟨code :: above, below, rfl, by rw [same]; rfl, List.forall_mem_cons.mpr ⟨less, greater⟩⟩
  | case4 limit code reversed => exact ⟨[], code :: reversed, rfl, rfl, by simp⟩

/-- A code point is put into a text with nothing but marks behind it. -/
theorem exists_append (table : PropertyTable) (buffer : OrderingBuffer) (code : CodePoint) :
    ∃ front back, buffer.text = front ++ back ∧
      (buffer.append table code).text = front ++ code :: back ∧
      ∀ mark ∈ back, table.combiningClass mark ≠ 0 := by
  -- A starter and a mark that is in order go to the end, past all that is there.
  simp only [append]
  split
  · exact ⟨buffer.text, [], by simp, by simp, by simp⟩
  · split
    · exact ⟨buffer.text, [], by simp, by simp [OrderingBuffer.text], by simp⟩
    · obtain ⟨above, below, same, inserted, greater⟩ := exists_insertMark table.combiningClass code
        (table.combiningClass code) buffer.runLength buffer.reversed
      refine ⟨below.reverse, above.reverse, by simp [OrderingBuffer.text, same],
        by simp [OrderingBuffer.text, inserted], ?_⟩
      -- No class is less than zero, which is that of starters.
      intro mark member zero
      have less := greater mark (List.mem_reverse.mp member)
      simp [zero] at less

/-- Code points that are no surrogates leave apart what is apart, wherever they go. -/
theorem staysUnpaired_foldl_append (spares : table.SparesSurrogates) {added : List CodePoint}
    (some_ : added ≠ []) (bare : ∀ code ∈ added, code.isSurrogate = false)
    {buffer : OrderingBuffer} (unpaired : Unpaired buffer.text) (source : List CodePoint) :
    StaysUnpaired source (added.foldl (append table) buffer).text := by
  -- Each of them keeps a lead from the end, so that none needs to know what the text ended with.
  induction added generalizing buffer with
  | nil => exact absurd rfl some_
  | cons code added ih =>
    obtain ⟨bareCode, bareOthers⟩ := List.forall_mem_cons.mp bare
    have step : StaysUnpaired source (buffer.append table code).text := by
      obtain ⟨front, back, whole, appended, marks⟩ := exists_append table buffer code
      rw [whole] at unpaired
      rw [appended]
      exact staysUnpaired_of_bare unpaired.left_of_append unpaired.right_of_append bareCode
        (fun mark member => spares.bare_of_mark (marks mark member)) source
    rw [List.foldl_cons]
    cases added with
    | nil => exact step
    | cons => exact ih (by simp) bareOthers step.unpaired

/-- Decomposing one more code point leaves apart what is apart. -/
theorem staysUnpaired_appendDecomposed (checked : table.Checked) (spares : table.SparesSurrogates)
    {source : List CodePoint} {buffer : OrderingBuffer} (keeps : StaysUnpaired source buffer.text)
    {code : CodePoint} (unpaired : Unpaired (source ++ [code])) :
    StaysUnpaired (source ++ [code]) (appendDecomposed table equivalence buffer code).text := by
  unfold appendDecomposed
  split
  · rw [text_appendStarter]
    exact keeps.push unpaired
  · cases surrogate : code.isSurrogate with
    | true =>
      -- A surrogate goes to the end as it is, just as it does in the source.
      have starter := spares.combiningClass_eq_zero surrogate
      rw [checked.expand_of_surrogate spares equivalence surrogate, List.foldl_cons, List.foldl_nil,
        append, if_pos starter, text_appendStarter]
      exact keeps.push unpaired
    | false =>
      exact staysUnpaired_foldl_append spares (checked.expand_ne_nil equivalence code)
        (fun part member => checked.bare_of_mem_expand spares surrogate member) keeps.unpaired _

end OrderingBuffer

namespace ComposingBuffer

variable {table : PropertyTable}

/-- Composing one more code point leaves apart what is apart, and only marks after the starter. -/
theorem staysUnpaired_append (spares : table.SparesSurrogates) {source : List CodePoint}
    {buffer : ComposingBuffer} (keeps : StaysUnpaired source buffer.text)
    (marks : ∀ mark ∈ buffer.after, table.combiningClass mark ≠ 0) {code : CodePoint}
    (unpaired : Unpaired (source ++ [code])) :
    StaysUnpaired (source ++ [code]) (buffer.append table code).text ∧
      ∀ mark ∈ (buffer.append table code).after, table.combiningClass mark ≠ 0 := by
  cases found : buffer.composite? table code (table.combiningClass code) with
  | some composite =>
    obtain ⟨starter, opened, composed, -⟩ := composite?_eq_some_iff.mp found
    have appended : buffer.append table code = { buffer with starter := some composite } := by
      simp only [append, found]
    rw [appended]
    refine ⟨?_, marks⟩
    -- The composite takes the place of the starter, and is no surrogate.
    have whole := keeps.unpaired
    rw [text_eq, opened, Option.toList_some, List.singleton_append] at whole
    rw [text_eq, Option.toList_some, List.singleton_append]
    have behind := (List.isChain_cons.mp whole.right_of_append).2
    refine staysUnpaired_of_bare whole.left_of_append behind (spares.bare_of_compose? composed) ?_ _
    intro mark member
    exact spares.bare_of_mark (marks mark (List.mem_reverse.mp member))
  | none =>
    -- What is not taken in goes to the end, as it does in the source.
    refine ⟨text_append found ▸ keeps.push unpaired, ?_⟩
    simp only [append, found]
    split
    · simp
    · next mark => exact List.forall_mem_cons.mpr ⟨mark, marks⟩

end ComposingBuffer

namespace PropertyTable

variable {table : PropertyTable} {equivalence : Equivalence} {source : List CodePoint}

/-- Decomposition leaves apart what is apart. -/
theorem staysUnpaired_decomposeOnto (checked : table.Checked) (spares : table.SparesSurrogates)
    (unpaired : Unpaired source) :
    StaysUnpaired source (table.decomposeOnto equivalence [] source) := by
  -- The last code point is appended to what the others have been decomposed to.
  induction source using List.reverseRecOn with
  | nil => exact ⟨.nil, by simp [decomposeOnto]⟩
  | append_singleton source code ih =>
    rw [decomposeOnto, List.foldl_append, List.foldl_cons, List.foldl_nil]
    exact OrderingBuffer.staysUnpaired_appendDecomposed checked spares (ih unpaired.left_of_append)
      unpaired

/-- Composition leaves apart what is apart. -/
theorem staysUnpaired_composeOnto (spares : table.SparesSurrogates) (unpaired : Unpaired source) :
    StaysUnpaired source (table.composeOnto [] source) := by
  -- A step relies on there being only marks after the starter.
  have run : StaysUnpaired source (table.composeOnto [] source) ∧
      ∀ mark ∈ (source.foldl (ComposingBuffer.append table) (.onto [])).after,
        table.combiningClass mark ≠ 0 := by
    induction source using List.reverseRecOn with
    | nil => exact ⟨⟨.nil, by simp [composeOnto]⟩, by simp [ComposingBuffer.onto]⟩
    | append_singleton source code ih =>
      obtain ⟨keeps, marks⟩ := ih unpaired.left_of_append
      rw [composeOnto, List.foldl_append, List.foldl_cons, List.foldl_nil]
      exact ComposingBuffer.staysUnpaired_append spares keeps marks unpaired
  exact run.1

/-- Normalization makes no lead meet a trail. -/
theorem Checked.unpaired_normalize (checked : table.Checked) (spares : table.SparesSurrogates)
    (form : Form) (unpaired : Unpaired source) : Unpaired (table.normalize form source) := by
  -- Neither decomposition nor composition puts a lead in front of a trail.
  have decomposed : Unpaired (table.decomposeOnto form.equivalence [] source) :=
    (staysUnpaired_decomposeOnto checked spares unpaired).unpaired
  unfold normalize normalizeOnto
  split
  · exact (staysUnpaired_composeOnto spares decomposed).unpaired
  · exact decomposed

/-- What a source is normalized to is there, or in a full decomposition, or is a composite. -/
theorem mem_normalize {form : Form} {code : CodePoint}
    (member : code ∈ table.normalize form source) : code ∈ source ∨
      (∃ other ∈ source, code ∈ table.expand form.equivalence other) ∨
      ∃ first second, table.compose? first second = some code := by
  -- Composition keeps what has been decomposed, or joins two of it to another one.
  have decomposed (there : code ∈ table.decomposeOnto form.equivalence [] source) :
      code ∈ source ∨ ∃ other ∈ source, code ∈ table.expand form.equivalence other := by
    rcases mem_decomposeOnto there with none | others
    · simp at none
    · exact others
  unfold normalize normalizeOnto at member
  split at member
  · rcases mem_composeOnto member with none | there | composite
    · simp at none
    · rw [← or_assoc]
      exact .inl (decomposed there)
    · exact .inr (.inr composite)
  · rw [← or_assoc]
    exact .inl (decomposed member)

/-- Scalar values are normalized to scalar values. -/
theorem Checked.isScalar_of_mem_normalize (checked : table.Checked)
    (spares : table.SparesSurrogates) (form : Form)
    (scalar : ∀ code ∈ source, code.isScalar = true) :
    ∀ code ∈ table.normalize form source, code.isScalar = true := by
  intro code member
  -- Neither the end of the code space nor the surrogates are reached.
  have split_ (code : CodePoint) :
      code.isScalar = true ↔ code ≤ CodePoint.last ∧ code.isSurrogate = false := by
    simp [CodePoint.isScalar]
  refine (split_ code).mpr ⟨checked.le_last_of_mem_normalize form
    (fun other among => ((split_ other).mp (scalar other among)).1) code member, ?_⟩
  rcases mem_normalize member with same | ⟨other, among, part⟩ | ⟨first, second, composed⟩
  · exact ((split_ code).mp (scalar code same)).2
  · exact checked.bare_of_mem_expand spares ((split_ other).mp (scalar other among)).2 part
  · exact spares.bare_of_compose? composed

end PropertyTable

namespace Utf16

/-- Units that are decoded strictly are scalar values, under whatever policy they are decoded. -/
theorem decodeFrom_of_strict {offset : Nat} {units : List UInt16}
    (unfailing : (decodeFrom .strict offset units).error = none) :
    (∀ code ∈ (decodeFrom .strict offset units).output, code.isScalar = true) ∧
      ∀ policy, decodeFrom policy offset units = decodeFrom .strict offset units := by
  fun_induction decodeFrom .strict offset units with
  | case1 => simp [Progress.done, decodeFrom]
  | case2 => simp [Progress.stop] at unfailing
  | case3 offset unit rest step code resolved ih =>
    -- A step that is decoded strictly has found a scalar value, which no policy replaces.
    obtain ⟨scalars, same⟩ := ih unfailing
    have read : step = ⟨.scalar code, step.length⟩ := by
      rw [← Decoded.resolve_strict_eq_ok_iff.mp resolved]
    refine ⟨List.forall_mem_cons.mpr ⟨(combine_eq_scalar_iff.mp read).1, scalars⟩, fun policy => ?_⟩
    have again : (nextUnits (unit :: rest)).decoded.resolve policy = .ok code := by
      rw [show nextUnits (unit :: rest) = _ from read]
      rfl
    rw [decodeFrom]
    simp only [again]
    rw [same]

/-- Scalar values have the same units under every policy. -/
theorem encodeFrom_of_scalar {text : List CodePoint}
    (scalar : ∀ code ∈ text, code.isScalar = true) (policy other : ErrorPolicy) (index : Nat) :
    encodeFrom policy index text = encodeFrom other index text := by
  induction text generalizing index with
  | nil => rfl
  | cons code text ih =>
    obtain ⟨here, behind⟩ := List.forall_mem_cons.mp scalar
    rw [CodePoint.isScalar, Bool.and_eq_true, decide_eq_true_eq, Bool.not_eq_true'] at here
    -- A scalar value fits, whatever is done with what does not.
    have fit (policy : ErrorPolicy) : isUnfit policy code = false := by
      simp [isUnfit, UInt32.not_lt.mpr here.1, here.2]
    simp only [encodeFrom_cons, unitsUnder, fit, ih behind, Bool.false_and]

end Utf16

/-- Scalar values are spelled by a string without any replacement. -/
theorem codePoints_textOf {text : List CodePoint} (scalar : ∀ code ∈ text, code.isScalar = true) :
    codePoints (textOf text) = text := by
  rw [codePoints, textOf, String.toList_ofList, List.map_map, List.map_congr_left, List.map_id]
  intro code member
  -- A character is valid exactly if it is a scalar value.
  have valid : code.isValidChar := by
    have range := CodePoint.isScalar_iff.mp (scalar code member)
    simp only [UInt32.isValidChar, Nat.isValidChar]
    omega
  simp [charOf, valid]

namespace PropertyTable

variable {table : PropertyTable}

/-- The table with one accented letter spares surrogates. -/
theorem sparesSurrogates_accents : Accents.table.SparesSurrogates where
  plain code surrogate := by
    rw [CodePoint.isSurrogate_iff] at surrogate
    rw [Accents.record_of_large (by omega), if_neg]
    rw [Bool.or_eq_true, Hangul.isVowel_iff, Hangul.isTrailing_iff]
    omega
  unmapped code part member := by
    by_cases mapped : code = 0xE9
    · rw [mapped, Accents.record_eq, if_pos rfl, Accents.mappingOf_composed] at member
      rcases List.mem_pair.mp member with rfl | rfl <;> decide
    · -- No other record has a mapping.
      have length := (checked_of_load Accents.load_bytes).length_mappingOf code
      have none : (Accents.table.record code).mappingLength = 0 := by
        rw [Accents.record_eq, if_neg mapped]
        split
        · rfl
        split
        · rfl
        split <;> rfl
      rw [none] at length
      rw [List.eq_nil_of_length_eq_zero length] at member
      simp at member
  uncomposed composition listed := by
    have same : composition = ⟨0x65, 0x301, 0xE9⟩ := by
      simpa [Accents.compositions_eq] using listed
    rw [same]
    decide

/-- A letter takes in an accent between two starters that take part in no composition. -/
theorem normalize_enclosed {first letter accent last composite : CodePoint}
    (plain : ∀ code < firstWithProperties,
      table.combiningClass code = 0 ∧ table.expand .canonical code = [code])
    (alone : ∀ code ∈ [first, letter, accent, last], table.expand .canonical code = [code])
    (starters : ∀ code ∈ [first, letter, last], table.combiningClass code = 0)
    (mark : table.combiningClass accent ≠ 0) (before : table.compose? first letter = none)
    (composed : table.compose? letter accent = some composite)
    (behind : table.compose? composite last = none) :
    table.normalize .nfc [first, letter, accent, last] = [first, composite, last] := by
  -- Decomposition leaves all four as they are, and composition joins the two in the middle.
  simp only [List.forall_mem_cons, List.not_mem_nil, false_implies, implies_true, and_true]
    at alone starters
  have ordered : arrange table.combiningClass [first, letter, accent, last]
      = [first, letter, accent, last] := by
    simp [arrange, place, starters, mark]
  have parts : table.decomposeOnto .canonical [] [first, letter, accent, last]
      = [first, letter, accent, last] := by
    simp [decomposeOnto_nil plain, alone, ordered]
  have joined : table.composeOnto [] [first, letter, accent, last] = [first, composite, last] := by
    simp [composeOnto, ComposingBuffer.append, ComposingBuffer.composite?, starters, before,
      composed, behind, ComposingBuffer.onto, ComposingBuffer.text, ComposingBuffer.reversed]
  simpa [normalize, normalizeOnto, Form.isComposing, Form.equivalence, Form.isCompatibility,
    parts] using joined

/-- The letter takes in its accent between a lead and a trail. -/
theorem normalize_accents_enclosed :
    Accents.table.normalize .nfc [0xD800, 0x65, 0x301, 0xDC00] = [0xD800, 0xE9, 0xDC00] := by
  -- The letter and its accent stand between halves of a pair, which nothing is known of.
  refine normalize_enclosed ?_ ?_ ?_ ?_ ?_ Accents.compose?_accent ?_
  · exact fun _ small =>
      coherent_accents.expand_plain (checked_of_load Accents.load_bytes) .canonical small
  · have syllables : Hangul.isSyllable 0xD800 = false ∧ Hangul.isSyllable 0x65 = false ∧
        Hangul.isSyllable 0x301 = false ∧ Hangul.isSyllable 0xDC00 = false := by decide
    simp [Accents.expand_eq, syllables]
  · simp [Accents.combiningClass_eq]
  · simp [Accents.combiningClass_eq]
  · exact Accents.compose?_eq_none (by decide) (by decide) (by decide) _
  · exact Accents.compose?_eq_none (by decide) (by decide) (by decide) _

/-- Normalizing UTF-16 is normalizing the text that it stands for.

Its units are decoded to the normalized text, they are what is written into a destination that has
room for them, and for well-formed units they are those of the normalized string. -/
theorem normalizeUnits_eq_normalize {bytes : List UInt8} (loaded : load bytes = .ok table)
    (spares : table.SparesSurrogates) (form : Form) (units : List UInt16) :
    Utf16.decode .preserve (table.normalizeUnits form units)
      = ⟨table.normalize form (Utf16.decode .preserve units).output, none⟩ ∧
    (∀ dest, (table.normalizeUnits form units).length ≤ dest.length →
      table.normalizeUnitsInto form dest units
        = ⟨table.normalizeUnits form units
              ++ dest.drop (table.normalizeUnits form units).length,
            (table.normalizeUnits form units).length, .success⟩) ∧
    ((Utf16.decode .strict units).error = none → ∃ text : String,
      Utf16.decode .strict units = ⟨codePoints text, none⟩ ∧
      Utf16.encode .strict (codePoints (table.normalizeText form text))
        = ⟨table.normalizeUnits form units, none⟩) := by
  have checked := checked_of_load loaded
  obtain ⟨text, decoded, encoded⟩ := (safe_of_load loaded).units form units
  obtain ⟨-, inside, unpaired⟩ := (@Utf16.decodeFrom_preserve_iff 0 0 units text).mp decoded
  refine ⟨?_, ?_, ?_⟩
  · -- The normalized text has no pair either, so that it is given back by its units.
    rw [decoded]
    exact (Utf16.decode_iff_of_encode encoded).mpr
      ⟨checked.le_last_of_mem_normalize form inside,
        checked.unpaired_normalize spares form unpaired⟩
  · intro dest room
    have written : table.normalizeUnitsInto form dest units
        = .fill dest (table.normalizeUnits form units) := by
      simp [normalizeUnitsInto, decoded, encoded, Progress.outcome, Progress.result,
        Except.mapError, Written.ofResult, bind, Except.bind]
    rw [written, Written.fill, if_neg (Nat.not_lt.mpr room)]
  · -- Strings hold scalar values only, for which all policies do the same.
    intro wellFormed
    obtain ⟨scalar, same⟩ := Utf16.decodeFrom_of_strict wellFormed
    have strict : Utf16.decode .strict units = ⟨text, none⟩ := (same .preserve).symm.trans decoded
    rw [← Utf16.decode, strict] at scalar
    have normal := checked.isScalar_of_mem_normalize spares form scalar
    refine ⟨textOf text, by rw [strict, codePoints_textOf scalar], ?_⟩
    rw [normalizeText, codePoints_textOf scalar, codePoints_textOf normal, ← encoded]
    exact Utf16.encodeFrom_of_scalar normal .strict .preserve 0

/-- An accented letter that is composed between a lead and a trail keeps them apart. -/
theorem normalizeUnits_eq_normalize_accents : load Accents.bytes = .ok Accents.table ∧
    Accents.table.SparesSurrogates ∧
    Utf16.decode .preserve (Accents.table.normalizeUnits .nfc [0xD800, 0x65, 0x301, 0xDC00])
      = ⟨[0xD800, 0xE9, 0xDC00], none⟩ := by
  -- The halves do not stand next to each other, so that each is decoded by itself.
  have decoded : (Utf16.decode .preserve [0xD800, 0x65, 0x301, 0xDC00]).output
      = [0xD800, 0x65, 0x301, 0xDC00] := by
    simp [Utf16.decode, Utf16.decodeFrom, Utf16.nextUnits, Utf16.combine, CodePoint.isSurrogate,
      CodePoint.isLead, CodePoint.isTrail, Decoded.resolve, Progress.before, Progress.done]
  refine ⟨Accents.load_bytes, sparesSurrogates_accents, ?_⟩
  rw [(normalizeUnits_eq_normalize Accents.load_bytes sparesSurrogates_accents .nfc _).1, decoded,
    normalize_accents_enclosed]

end PropertyTable

end UniText
