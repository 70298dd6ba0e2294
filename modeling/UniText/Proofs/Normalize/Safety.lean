import UniText.Normalize.Units
import UniText.Proofs.Charset.Range
import UniText.Proofs.Normalize.Frame
import UniText.Proofs.Property.Direct
import UniText.Proofs.Property.Lookup

/-! A loaded table is safe to use: all look-ups succeed, and no result leaves the code space. -/

namespace UniText

namespace OrderingBuffer

variable {table : PropertyTable}

/-- Putting a mark to its place adds the mark and nothing else. -/
theorem mem_insertMark {classOf : CodePoint → UInt8} {mark : CodePoint} {markClass : UInt8}
    {limit : Nat} {reversed : List CodePoint} {code : CodePoint} :
    code ∈ insertMark classOf mark markClass limit reversed ↔ code = mark ∨ code ∈ reversed := by
  -- The mark goes past some of the others, and none of them is lost.
  fun_induction insertMark classOf mark markClass limit reversed with
  | case1 => simp
  | case2 => simp
  | case3 limit other reversed below ih => simp [ih, or_left_comm]
  | case4 => simp

/-- Appending a code point adds it and nothing else. -/
theorem mem_append {buffer : OrderingBuffer} {added code : CodePoint} :
    code ∈ (buffer.append table added).text ↔ code = added ∨ code ∈ buffer.text := by
  -- Wherever the code point goes, all others stay.
  simp only [append, OrderingBuffer.text, List.mem_reverse]
  split
  · simp [appendStarter]
  · split
    · simp
    · exact mem_insertMark

/-- Appending code points adds them and nothing else. -/
theorem mem_foldl_append {added : List CodePoint} {buffer : OrderingBuffer} {code : CodePoint} :
    code ∈ (added.foldl (append table) buffer).text ↔ code ∈ added ∨ code ∈ buffer.text := by
  -- Each code point is added to the text, wherever it is put.
  induction added generalizing buffer with
  | nil => simp
  | cons first added ih => simp [ih, mem_append, or_assoc, or_left_comm]

end OrderingBuffer

/-- Appending a code point adds it, or the composite of the last starter with it. -/
theorem ComposingBuffer.mem_append {table : PropertyTable} {buffer : ComposingBuffer}
    {added code : CodePoint} (member : code ∈ (buffer.append table added).text) :
    code ∈ buffer.text ∨ code = added ∨ ∃ starter, table.compose? starter added = some code := by
  cases taken : buffer.composite? table added (table.combiningClass added) with
  | none =>
    rw [text_append taken] at member
    rcases List.mem_append.mp member with there | here
    · exact .inl there
    · exact .inr (.inl (List.mem_singleton.mp here))
  | some composite =>
    obtain ⟨starter, -, composed, -⟩ := composite?_eq_some_iff.mp taken
    -- What is before the last starter and after it stays there.
    simp only [append, taken, ComposingBuffer.text, reversed, List.mem_reverse, List.mem_append,
      Option.toList_some, List.mem_singleton] at member ⊢
    rcases member with after | rfl | before
    · exact .inl (.inl after)
    · exact .inr (.inr ⟨starter, composed⟩)
    · exact .inl (.inr (.inr before))

namespace PropertyTable

variable {table : PropertyTable} {equivalence : Equivalence}

/-- A decomposition consists of full decompositions, and of what is not looked up. -/
theorem mem_decomposeOnto {text source : List CodePoint} {code : CodePoint}
    (member : code ∈ table.decomposeOnto equivalence text source) :
    code ∈ text ∨ code ∈ source ∨ ∃ other ∈ source, code ∈ table.expand equivalence other := by
  -- The last code point is appended to the decomposition of those before it.
  induction source using List.reverseRecOn generalizing code with
  | nil => exact .inl (by simpa [decomposeOnto] using member)
  | append_singleton source last ih =>
    have before (there : code ∈ table.decomposeOnto equivalence text source) :
        code ∈ text ∨ code ∈ source ++ [last] ∨
          ∃ other ∈ source ++ [last], code ∈ table.expand equivalence other := by
      rcases ih there with old | same | ⟨other, among, part⟩
      · exact .inl old
      · exact .inr (.inl (by simp [same]))
      · exact .inr (.inr ⟨other, by simp [among], part⟩)
    rw [decomposeOnto, List.foldl_append, List.foldl_cons, List.foldl_nil,
      OrderingBuffer.appendDecomposed] at member
    split at member
    · -- The last code point is not looked up, and goes to the end.
      rw [OrderingBuffer.text_appendStarter] at member
      rcases List.mem_append.mp member with there | here
      · exact before there
      · exact .inr (.inl (by simp [List.mem_singleton.mp here]))
    · rcases OrderingBuffer.mem_foldl_append.mp member with part | there
      · exact .inr (.inr ⟨last, by simp, part⟩)
      · exact before there

/-- A composition consists of composites, and of what was there. -/
theorem mem_composeOnto {text source : List CodePoint} {code : CodePoint}
    (member : code ∈ table.composeOnto text source) :
    code ∈ text ∨ code ∈ source ∨ ∃ first second, table.compose? first second = some code := by
  induction source using List.reverseRecOn generalizing code with
  | nil => exact .inl (by simpa [composeOnto] using member)
  | append_singleton source last ih =>
    rw [composeOnto, List.foldl_append, List.foldl_cons, List.foldl_nil] at member
    -- A composite replaces its starter, and may be replaced by another one later.
    rcases ComposingBuffer.mem_append member with there | here | ⟨starter, composed⟩
    · rcases ih there with old | same | composite
      · exact .inl old
      · exact .inr (.inl (by simp [same]))
      · exact .inr (.inr composite)
    · exact .inr (.inl (by simp [here]))
    · exact .inr (.inr ⟨starter, last, composed⟩)

/-- A result continues a text with code points only, which have units in UTF-16. -/
def Continues (text result : List CodePoint) : Prop :=
  ∃ added, result = text ++ added ∧ (∀ code ∈ added, code ≤ CodePoint.last) ∧
    (Utf16.encode .preserve added).error = none

/-- What loading a table guarantees for all that is done with it. -/
structure Safe (table : PropertyTable) : Prop where
  /-- Both stages are read at places that are there. -/
  stages : ∀ code ≤ CodePoint.last, ∃ block index,
    table.stage1[code.toNat / blockSize]? = some block ∧
      table.stage2[block.toNat * blockSize + code.toNat % blockSize]? = some index ∧
      table.recordIndex code = index.toNat
  /-- So is the list of records, also for values outside the code space. -/
  records : ∀ code, table.records[table.recordIndex code]? = some (table.record code)
  /-- The stretch of a mapping lies within the mappings, and is read as a whole. -/
  mappings : ∀ code,
    (table.record code).mappingOffset.toNat + (table.record code).mappingLength.toNat
        ≤ table.mapping.size ∧
      (table.mappingOf (table.record code)).length = (table.record code).mappingLength.toNat
  /-- The search for a pair looks at compositions that are there, and depends on no others. -/
  compositions : ∀ first second,
    (∀ place, Probed table.compositions first second 0 table.compositions.size place →
        place < table.compositions.size) ∧
      ∀ other : Array Composition,
        (∀ place, Probed table.compositions first second 0 table.compositions.size place →
          other[place]? = table.compositions[place]?) →
        findPair other first second 0 table.compositions.size
          = findPair table.compositions first second 0 table.compositions.size
  /-- Following mappings comes to an end. -/
  ends : ∀ equivalence, WellFounded (table.DecomposesTo equivalence)
  /-- Full decompositions are what following the mappings gives, which is never nothing. -/
  expands : ∀ equivalence code, table.expand equivalence code ≠ [] ∧
    table.expand equivalence code =
      if Hangul.isSyllable code then Hangul.letters code
      else match table.mapping? equivalence (table.record code) with
        | some codes => codes.flatMap (table.expand equivalence)
        | none => [code]
  /-- Code points are decomposed, composed and normalized to code points. -/
  inside : ∀ source, (∀ code ∈ source, code ≤ CodePoint.last) → ∀ text,
    (∀ equivalence, Continues text (table.decomposeOnto equivalence text source)) ∧
      Continues text (table.composeOnto text source) ∧
      ∀ form, Continues text (table.normalizeOnto form text source)
  /-- Normalizing UTF-16 neither fails to decode nor to encode, if surrogates are kept. -/
  units : ∀ form units, ∃ text, Utf16.decode .preserve units = ⟨text, none⟩ ∧
    Utf16.encode .preserve (table.normalize form text) = ⟨table.normalizeUnits form units, none⟩

/-- Code points that follow a text continue it. -/
theorem continues_append {added : List CodePoint} (inside : ∀ code ∈ added, code ≤ CodePoint.last)
    (text : List CodePoint) : Continues text (text ++ added) :=
  ⟨added, rfl, inside, Utf16.encode_preserve inside⟩

/-- Code points decompose to code points. -/
theorem Checked.le_last_of_mem_decomposeOnto (checked : table.Checked) {source : List CodePoint}
    (inside : ∀ code ∈ source, code ≤ CodePoint.last) :
    ∀ code ∈ table.decomposeOnto equivalence [] source, code ≤ CodePoint.last := by
  -- What is there comes from the source or from the expansion of something in it.
  intro code member
  rcases mem_decomposeOnto member with none | same | ⟨other, among, part⟩
  · simp at none
  · exact inside code same
  · exact checked.le_last_of_mem_expand (inside other among) part

/-- Code points compose to code points. -/
theorem Checked.le_last_of_mem_composeOnto (checked : table.Checked) {source : List CodePoint}
    (inside : ∀ code ∈ source, code ≤ CodePoint.last) :
    ∀ code ∈ table.composeOnto [] source, code ≤ CodePoint.last := by
  -- What is there comes from the source or has been composed.
  intro code member
  rcases mem_composeOnto member with none | same | ⟨first, second, composed⟩
  · simp at none
  · exact inside code same
  · exact checked.le_last_of_compose? composed

/-- Code points are normalized to code points. -/
theorem Checked.le_last_of_mem_normalize (checked : table.Checked) (form : Form)
    {source : List CodePoint} (inside : ∀ code ∈ source, code ≤ CodePoint.last) :
    ∀ code ∈ table.normalize form source, code ≤ CodePoint.last := by
  unfold normalize normalizeOnto
  -- What is composed has been decomposed before.
  split
  · exact checked.le_last_of_mem_composeOnto (checked.le_last_of_mem_decomposeOnto inside)
  · exact checked.le_last_of_mem_decomposeOnto inside

/-- The mapping of every code point lies within the mappings. -/
theorem Checked.mapping_le (checked : table.Checked) (code : CodePoint) :
    (table.record code).mappingOffset.toNat + (table.record code).mappingLength.toNat
      ≤ table.mapping.size := by
  -- Every stored record was checked, and the default one has no mapping.
  rcases table.record_mem_or_default code with member | plain
  · exact (checked.mapped _ member).1
  · rw [plain]
    exact Nat.zero_le _

/-- A table that was loaded is safe. -/
theorem safe_of_load {bytes : List UInt8} (loaded : load bytes = .ok table) : table.Safe := by
  have checked := checked_of_load loaded
  have stored := (load_eq_ok_iff.mp loaded).1
  exact
    { stages := fun code inside => stored.exists_recordIndex checked inside
      records := stored.getElem?_recordIndex checked
      mappings := fun code => ⟨checked.mapping_le code, checked.length_mappingOf code⟩
      compositions := fun first second =>
        ⟨fun place probed => probed.within.2, fun other same => findPair_congr same⟩
      ends := checked.wellFounded
      expands := fun equivalence code =>
        ⟨checked.expand_ne_nil equivalence code, checked.expand_eq equivalence code⟩
      inside := by
        intro source inside text
        refine ⟨fun equivalence => ?_, ?_, fun form => ?_⟩
        · rw [decomposeOnto_eq]
          exact continues_append (checked.le_last_of_mem_decomposeOnto inside) text
        · rw [composeOnto_eq]
          exact continues_append (checked.le_last_of_mem_composeOnto inside) text
        · rw [normalizeOnto_eq]
          exact continues_append (checked.le_last_of_mem_normalize form inside) text
      units := by
        intro form units
        obtain ⟨whole, inside⟩ := Utf16.decode_preserve units
        -- What was decoded are code points, and so is what they are normalized to.
        have written := Utf16.encode_preserve (checked.le_last_of_mem_normalize form inside)
        refine ⟨(Utf16.decode .preserve units).output, by rw [← whole], ?_⟩
        rw [← written]
        rfl }

/-- The table with one accented letter is safe. -/
theorem safe_of_load_accents : load Accents.bytes = .ok Accents.table ∧ Accents.table.Safe :=
  ⟨Accents.load_bytes, safe_of_load Accents.load_bytes⟩

end PropertyTable

end UniText
