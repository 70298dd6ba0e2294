import UniText.Proofs.Normalize.Absorption

/-! A starter and the marks behind it recompose, if each of them does so alone. -/

namespace UniText

namespace ComposingBuffer

variable {table : PropertyTable}

/-- What no starter takes in stays at the end. -/
theorem text_foldl_append {marks : List CodePoint}
    (apart : ∀ mark ∈ marks, ∀ starter, table.compose? starter mark = none)
    (buffer : ComposingBuffer) :
    (marks.foldl (append table) buffer).text = buffer.text ++ marks := by
  -- One mark at a time goes to the end.
  induction marks generalizing buffer with
  | nil => simp
  | cons mark marks ih =>
    have kept := text_append (composite?_eq_none (apart mark (by simp)) buffer _)
    have later : ∀ other ∈ marks, ∀ starter, table.compose? starter other = none := by
      intro other member
      exact apart other (by simp [member])
    rw [List.foldl_cons, ih later, kept]
    simp

/-- Parts that join one after the other are all taken in by a starter just before them. -/
theorem foldl_append_of_foldlM {parts before : List CodePoint} {starter composite : CodePoint}
    {lastClass : UInt8} (chain : parts.foldlM table.compose? starter = some composite) :
    parts.foldl (append table) ⟨before, some starter, [], lastClass⟩
      = ⟨before, some composite, [], lastClass⟩ := by
  induction parts generalizing starter with
  | nil =>
    simp only [List.foldlM_nil, Pure.pure, Option.some.injEq] at chain
    rw [chain, List.foldl_nil]
  | cons part parts ih =>
    -- Nothing is behind the starter, so that nothing blocks the part.
    obtain ⟨between, composed, chain⟩ := Option.bind_eq_some_iff.mp chain
    rw [List.foldl_cons, ← ih chain, append,
      composite?_eq_some_iff.mpr ⟨starter, rfl, composed, .inl rfl⟩]

/-- A part of a class above all marks behind the starter is taken in, which leaves them below. -/
theorem append_part {part starter composite : CodePoint} {run before after : List CodePoint}
    {lastClass : UInt8} (composed : table.compose? starter part = some composite)
    (below : after = [] ∨
      lastClass ≠ 0 ∧ ∀ other ∈ part :: run, lastClass < table.combiningClass other) :
    append table ⟨before, some starter, after, lastClass⟩ part
        = ⟨before, some composite, after, lastClass⟩ ∧
      (after = [] ∨ lastClass ≠ 0 ∧ ∀ other ∈ run, lastClass < table.combiningClass other) := by
  -- Either nothing is behind the starter, or marks of lower classes are.
  have free : after = [] ∨ lastClass ≠ 0 ∧ lastClass < table.combiningClass part := by
    rcases below with none | ⟨nonzero, less⟩
    · exact .inl none
    · exact .inr ⟨nonzero, less part (by simp)⟩
  refine ⟨?_, ?_⟩
  · rw [append, composite?_eq_some_iff.mpr ⟨starter, rfl, composed, free⟩]
  · rcases below with none | ⟨nonzero, less⟩
    · exact .inl none
    · refine .inr ⟨nonzero, ?_⟩
      intro other member
      exact less other (by simp [member])

/-- Marks that join one after the other are taken in past others that are merged with them.

Among equal classes those that join come first, so that nothing keeps them apart. -/
theorem text_foldl_merge {run marks before after : List CodePoint} {starter composite : CodePoint}
    {lastClass : UInt8} (chain : run.foldlM table.compose? starter = some composite)
    (ascending : run.Pairwise fun one other => notAbove table.combiningClass one other)
    (nonzero : ∀ mark ∈ marks, table.combiningClass mark ≠ 0)
    (apart : ∀ mark ∈ marks, ∀ starter, table.compose? starter mark = none)
    (below : after = [] ∨ lastClass ≠ 0 ∧ ∀ part ∈ run, lastClass < table.combiningClass part) :
    ((run.merge marks (notAbove table.combiningClass)).foldl (append table)
        ⟨before, some starter, after, lastClass⟩).text
      = before.reverse ++ composite :: (after.reverse ++ marks) := by
  -- The induction follows the merge, which takes the front of the run or of the marks.
  induction run generalizing marks after starter lastClass with
  | nil =>
    -- All parts are taken in, and what is left of the marks goes to the end.
    simp only [List.foldlM_nil, Pure.pure, Option.some.injEq] at chain
    rw [List.nil_merge, text_foldl_append apart, text_eq]
    simp [chain]
  | cons part run ihRun =>
    obtain ⟨lowest, rest⟩ := List.pairwise_cons.mp ascending
    obtain ⟨between, composed, chain'⟩ := Option.bind_eq_some_iff.mp chain
    induction marks generalizing after lastClass with
    | nil =>
      obtain ⟨taken, below'⟩ := append_part composed below
      rw [List.merge_right, List.foldl_cons, taken]
      have whole := ihRun chain' rest nonzero apart below'
      rwa [List.merge_right] at whole
    | cons mark marks ihMarks =>
      rw [List.cons_merge_cons]
      split
      · -- The part is taken in past the marks before it, which all have lower classes.
        obtain ⟨taken, below'⟩ := append_part composed below
        rw [List.foldl_cons, taken]
        exact ihRun chain' rest nonzero apart below'
      · next above =>
        simp only [notAbove, decide_eq_true_eq, UInt8.not_le] at above lowest
        have isMark := nonzero mark (by simp)
        have nonzero' : ∀ other ∈ marks, table.combiningClass other ≠ 0 := by
          intro other member
          exact nonzero other (by simp [member])
        have apart' : ∀ other ∈ marks, ∀ starter, table.compose? starter other = none := by
          intro other member
          exact apart other (by simp [member])
        -- The mark goes to the end, below all parts that are still to come.
        have below' : ∀ other ∈ part :: run,
            table.combiningClass mark < table.combiningClass other := by
          intro other member
          rcases List.mem_cons.mp member with rfl | member
          · exact above
          · exact UInt8.lt_of_lt_of_le above (lowest other member)
        rw [List.foldl_cons, append, composite?_eq_none (apart mark (by simp))]
        simp only [isMark, if_false]
        rw [ihMarks nonzero' apart' (.inr ⟨isMark, below'⟩)]
        simp

end ComposingBuffer

namespace PropertyTable

variable {table : PropertyTable} {form : Form} {equivalence : Equivalence}

/-- A composing form joins what it has taken apart. -/
theorem normalize_of_composing (composing : form.isComposing = true) (source : List CodePoint) :
    table.normalize form source
      = table.composeOnto [] (table.decomposeOnto form.equivalence [] source) := by
  -- The form tells whether composition follows.
  simp [normalize, normalizeOnto, composing]

/-- A decomposing form leaves apart what it has taken apart. -/
theorem normalize_of_decomposing (decomposing : form.isComposing = false)
    (source : List CodePoint) :
    table.normalize form source = table.decomposeOnto form.equivalence [] source := by
  -- The form tells that decomposition is all.
  simp [normalize, normalizeOnto, decomposing]

/-- A starter composes with what it takes in, part by part, and is then all that there is. -/
theorem composeOnto_cons {first composite : CodePoint} {parts : List CodePoint}
    (starter : table.combiningClass first = 0)
    (chain : parts.foldlM table.compose? first = some composite) (rest : List CodePoint) :
    table.composeOnto [] (first :: parts ++ rest)
      = (rest.foldl (ComposingBuffer.append table) ⟨[], some composite, [], 0⟩).text := by
  -- In an empty buffer the starter is the only one there is.
  have opened : (ComposingBuffer.onto []).append table first = ⟨[], some first, [], 0⟩ := by
    simp [ComposingBuffer.append, ComposingBuffer.composite?, ComposingBuffer.onto, starter,
      ComposingBuffer.reversed]
  rw [composeOnto, List.cons_append, List.foldl_cons, opened, List.foldl_append,
    ComposingBuffer.foldl_append_of_foldlM chain]

/-- What is settled is what composing its full decomposition gives. -/
theorem Settled.composeOnto_expand {code : CodePoint} (settled : table.Settled equivalence code) :
    table.composeOnto [] (table.expand equivalence code) = [code] := by
  by_cases starter : table.combiningClass code = 0
  · obtain ⟨first, rest, expansion, chain, -, opens⟩ := settled.starts starter
    rw [expansion, ← List.append_nil (first :: rest), composeOnto_cons opens chain]
    rfl
  · -- A mark stands for itself, and there is no starter to take it in.
    rw [settled.expand_mark starter]
    simp [composeOnto, ComposingBuffer.append, ComposingBuffer.composite?, ComposingBuffer.onto,
      starter, ComposingBuffer.text, ComposingBuffer.reversed]

/-- A settled code point has a full decomposition in canonical order. -/
theorem Settled.decomposeOnto_singleton (coherent : table.Coherent) (checked : table.Checked)
    {code : CodePoint} (settled : table.Settled equivalence code) :
    table.decomposeOnto equivalence [] [code] = table.expand equivalence code := by
  -- The expansion is in order by itself.
  obtain ⟨first, rest, expansion, -, ordered, -⟩ := settled
  rw [decomposeOnto_nil fun _ small => coherent.expand_plain checked equivalence small,
    List.flatMap_singleton, expansion, arrange_of_ordered ordered]

/-- What is settled is left alone by a composing form. -/
theorem Settled.normalize_singleton (coherent : table.Coherent) (checked : table.Checked)
    (composing : form.isComposing = true) {code : CodePoint}
    (settled : table.Settled form.equivalence code) : table.normalize form [code] = [code] := by
  -- What is taken apart joins again to the code point.
  rw [normalize_of_composing composing, settled.decomposeOnto_singleton coherent checked,
    settled.composeOnto_expand]

/-- What stands for itself is left alone by every form. -/
theorem Coherent.normalize_of_alone (coherent : table.Coherent) (checked : table.Checked)
    {code : CodePoint} (alone : table.expand form.equivalence code = [code]) :
    table.normalize form [code] = [code] := by
  -- A decomposing form gives the full decomposition, which is the code point itself.
  have settled := settled_of_alone alone
  cases composing : form.isComposing with
  | true => exact settled.normalize_singleton coherent checked composing
  | false =>
    rw [normalize_of_decomposing composing, settled.decomposeOnto_singleton coherent checked, alone]

/-- A normalization is in canonical order, and each of its code points is normalized alone. -/
theorem Coherent.normalized (coherent : table.Coherent) (checked : table.Checked) (form : Form)
    (source : List CodePoint) :
    Ordered table.combiningClass (table.normalize form source) ∧
      ∀ code ∈ table.normalize form source, table.Settled form.equivalence code ∧
        table.normalize form [code] = [code] := by
  obtain ⟨ordered, alone⟩ := coherent.decomposed checked form.equivalence source
  cases composing : form.isComposing with
  | false =>
    rw [normalize_of_decomposing composing]
    refine ⟨ordered, ?_⟩
    intro code member
    exact ⟨settled_of_alone (alone code member),
      coherent.normalize_of_alone checked (alone code member)⟩
  | true =>
    -- The composition is what a buffer holds from which all parts are restored.
    rw [normalize_of_composing composing]
    have restores := ComposingBuffer.restores_foldl coherent checked ordered alone
    refine ⟨restores.ordered, ?_⟩
    intro code member
    have settled := restores.settled code member
    exact ⟨settled, settled.normalize_singleton coherent checked composing⟩

/-- What is normalized alone is settled. -/
theorem Coherent.settled_of_normalize (coherent : table.Coherent) (checked : table.Checked)
    {code : CodePoint} (alone : table.normalize form [code] = [code]) :
    table.Settled form.equivalence code :=
  -- The code point stands in its own normal form, where everything is settled.
  ((coherent.normalized checked form [code]).2 code (by simp [alone])).1

/-- A starter and the marks behind it are normalized, if the starter is normalized alone.

The marks have to be in order, to stand for themselves and not to be taken in by anything. -/
theorem Coherent.normalize_cons_marks (coherent : table.Coherent) (checked : table.Checked)
    (composing : form.isComposing = true) {starter : CodePoint} {marks : List CodePoint}
    (settled : table.Settled form.equivalence starter)
    (isStarter : table.combiningClass starter = 0)
    (ordered : OrderedAfter table.combiningClass 0 marks)
    (nonzero : ∀ mark ∈ marks, table.combiningClass mark ≠ 0)
    (alone : ∀ mark ∈ marks, table.expand form.equivalence mark = [mark])
    (apart : ∀ mark ∈ marks, ∀ first, table.compose? first mark = none) :
    table.normalize form (starter :: marks) = starter :: marks := by
  obtain ⟨first, rest, expansion, chain, inOrder, opens⟩ := settled.starts isStarter
  -- The full decomposition ends with a run of marks, before which there is a starter.
  obtain ⟨front, run, parts, closed, runMarks⟩ : ∃ front run, first :: rest = front ++ run ∧
      lastClassOf table.combiningClass front = 0 ∧
      ∀ mark ∈ run, table.combiningClass mark ≠ 0 := exists_run _
  obtain ⟨front, rfl, rfl⟩ : ∃ others, front = first :: others ∧ rest = others ++ run := by
    cases front with
    | nil =>
      -- The first part is a starter, so that the run does not reach it.
      have inRun : first ∈ run := by
        rw [← List.nil_append run, ← parts]
        simp
      exact absurd opens (runMarks first inRun)
    | cons other others =>
      obtain ⟨rfl, rfl⟩ := List.cons.inj parts
      exact ⟨others, rfl, rfl⟩
  rw [parts, ordered_append, closed] at inOrder
  obtain ⟨runAscending, -⟩ := inOrder.2.ascending runMarks
  obtain ⟨marksAscending, -⟩ := ordered.ascending nonzero
  -- Merged with the marks behind the starter, the run is still in order.
  have mergedOrder : Ordered table.combiningClass
      (first :: front ++ run.merge marks (notAbove table.combiningClass)) := by
    rw [ordered_append, closed]
    refine ⟨inOrder.1, ?_⟩
    apply orderedAfter_of_ascending (ascending_merge runAscending marksAscending)
    intro _ _
    exact UInt8.le_iff_toNat_le.mpr (Nat.zero_le _)
  have merged : table.decomposeOnto form.equivalence [] (starter :: marks)
      = first :: front ++ run.merge marks (notAbove table.combiningClass) := by
    rw [decomposeOnto_nil fun _ small => coherent.expand_plain checked form.equivalence small,
      List.flatMap_cons, List.flatMap_congr alone, List.flatMap_singleton', expansion, parts,
      arrange_append_merge runAscending runMarks nonzero, arrange_of_ordered mergedOrder]
  -- The starter takes in the front alone, and then the run past the marks.
  rw [List.foldlM_append] at chain
  obtain ⟨between, front_, run_⟩ := Option.bind_eq_some_iff.mp chain
  rw [normalize_of_composing composing, merged, composeOnto_cons opens front_,
    ComposingBuffer.text_foldl_merge run_ runAscending nonzero apart (.inl rfl)]
  rfl

end PropertyTable

end UniText
