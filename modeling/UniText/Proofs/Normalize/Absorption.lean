import UniText.Proofs.Normalize.Composing

/-! Normalizing again changes nothing, and a canonical form absorbs the other one. -/

namespace UniText.PropertyTable

variable {table : PropertyTable}

/-- A decomposition is in canonical order, and nothing in it decomposes further. -/
theorem Coherent.decomposed (coherent : table.Coherent) (checked : table.Checked)
    (equivalence : Equivalence) (source : List CodePoint) :
    Ordered table.combiningClass (table.decomposeOnto equivalence [] source) ∧
      ∀ part ∈ table.decomposeOnto equivalence [] source,
        table.expand equivalence part = [part] := by
  rw [decomposeOnto_nil fun _ small => coherent.expand_plain checked equivalence small]
  refine ⟨ordered_arrange _, ?_⟩
  intro part member
  -- Canonical order has no other code points than the full decompositions.
  exact coherent.flatMap_expand checked equivalence source part (mem_arrange.mp member)

/-- Decomposition leaves a decomposition as it is. -/
theorem Coherent.decompose_decompose (coherent : table.Coherent) (checked : table.Checked)
    (equivalence : Equivalence) (source : List CodePoint) :
    table.decomposeOnto equivalence [] (table.decomposeOnto equivalence [] source)
      = table.decomposeOnto equivalence [] source := by
  -- What has been decomposed is in order, and nothing in it can be taken apart.
  obtain ⟨ordered, alone⟩ := coherent.decomposed checked equivalence source
  rw [decomposeOnto_nil fun _ small => coherent.expand_plain checked equivalence small,
    List.flatMap_congr alone, List.flatMap_singleton', arrange_of_ordered ordered]

/-- Decomposition takes apart again all that composition has joined. -/
theorem Coherent.decompose_compose_decompose (coherent : table.Coherent) (checked : table.Checked)
    (equivalence : Equivalence) (source : List CodePoint) :
    table.decomposeOnto equivalence []
        (table.composeOnto [] (table.decomposeOnto equivalence [] source))
      = table.decomposeOnto equivalence [] source := by
  -- Composition does nothing that decomposition would not take back.
  obtain ⟨ordered, alone⟩ := coherent.decomposed checked equivalence source
  exact coherent.decompose_compose checked ordered alone

/-- Every form leaves its own normalizations as they are.

Each canonical form makes the same of a text as of its normalization to the other one. -/
theorem normalize_normalize {bytes : List UInt8} (loaded : load bytes = .ok table)
    (coherent : table.Coherent) (source : List CodePoint) :
    (∀ form, table.normalize form (table.normalize form source) = table.normalize form source) ∧
      table.normalize .nfd (table.normalize .nfc source) = table.normalize .nfd source ∧
      table.normalize .nfc (table.normalize .nfd source) = table.normalize .nfc source := by
  have checked := checked_of_load loaded
  have again := coherent.decompose_decompose checked
  have apart := coherent.decompose_compose_decompose checked
  refine ⟨?_, ?_, ?_⟩
  · intro form
    unfold normalize normalizeOnto
    cases form.isComposing with
    | false => exact again form.equivalence source
    | true =>
      -- What is composed again is the decomposition that was composed before.
      simp only [↓reduceIte, apart]
  · exact apart .canonical source
  · -- The decomposition of a decomposition is composed, which is the same one.
    simp only [normalize, normalizeOnto, Form.isComposing, Form.equivalence, Form.isCompatibility,
      ↓reduceIte, Bool.false_eq_true, again]

/-- An accented letter and a mark of a lower class come to the same end by way of either form. -/
theorem normalize_normalize_accents : load Accents.bytes = .ok Accents.table ∧
    Accents.table.Coherent ∧
    Accents.table.normalize .nfd (Accents.table.normalize .nfc [0xE9, 0x323])
      = [0x65, 0x323, 0x301] := by
  refine ⟨Accents.load_bytes, coherent_accents, ?_⟩
  rw [(normalize_normalize Accents.load_bytes coherent_accents [0xE9, 0x323]).2.1,
    normalize, normalizeOnto, if_neg (by decide), decomposeOnto_nil fun _ small =>
      coherent_accents.expand_plain (checked_of_load Accents.load_bytes) _ small]
  have mark : Hangul.isSyllable 0x323 = false := by decide
  -- The mark of the lower class goes before the accent.
  simp [Accents.expand_eq, mark, arrange, place, Accents.combiningClass_eq]

end UniText.PropertyTable
