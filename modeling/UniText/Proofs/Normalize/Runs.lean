import Mathlib.Data.List.SplitBy
import UniText.Proofs.Normalize.Compatibility

/-! Decomposition sorts the runs of marks: each of them by class, and stably. -/

namespace UniText

/-- Both of two code points are marks. -/
def bothMarks (classOf : CodePoint → UInt8) (one other : CodePoint) : Bool :=
  classOf one ≠ 0 && classOf other ≠ 0

/-- A text in which the marks of each longest run are sorted by class.

Marks of an equal class keep their order, and a starter is a run of its own. -/
def sortRuns (classOf : CodePoint → UInt8) (text : List CodePoint) : List CodePoint :=
  (text.splitBy (bothMarks classOf)).flatMap fun run => run.mergeSort (notAbove classOf)

section SortRuns

variable {classOf : CodePoint → UInt8}

/-- Sorted marks are in ascending order. -/
theorem ascending_mergeSort (marks : List CodePoint) :
    (marks.mergeSort (notAbove classOf)).Pairwise fun one other => notAbove classOf one other := by
  -- Classes are compared in a total order.
  apply List.pairwise_mergeSort
  · intro one other last below above
    simp only [notAbove, decide_eq_true_eq] at below above ⊢
    exact UInt8.le_trans below above
  · intro one other
    simpa [notAbove] using UInt8.le_total _ _

/-- Several marks are sorted by merging two sorted parts of them. -/
theorem exists_mergeSort_eq {marks : List CodePoint} (several : 2 ≤ marks.length) :
    ∃ front back, marks = front ++ back ∧ front.length < marks.length ∧
      back.length < marks.length ∧ marks.mergeSort (notAbove classOf)
        = (front.mergeSort (notAbove classOf)).merge (back.mergeSort (notAbove classOf))
            (notAbove classOf) := by
  match marks, several with
  | one :: other :: marks, several =>
    -- The first part is the longer one if the number of marks is odd.
    refine ⟨_, _, (List.take_append_drop ((marks.length + 3) / 2) _).symm, ?_, ?_, ?_⟩
    · rw [List.length_take, List.length_cons, List.length_cons]
      omega
    · rw [List.length_drop, List.length_cons, List.length_cons]
      omega
    · rw [List.mergeSort]
      simp

/-- Marks may be sorted by class before they are arranged. -/
theorem arrange_append_mergeSort {marks : List CodePoint}
    (nonzero : ∀ mark ∈ marks, classOf mark ≠ 0) (before : List CodePoint) :
    arrange classOf (before ++ marks)
      = arrange classOf (before ++ marks.mergeSort (notAbove classOf)) := by
  -- The induction follows the sort, from the whole to its parts.
  induction size : marks.length using Nat.strongRecOn generalizing marks before with
  | ind _ ih =>
    by_cases several : 2 ≤ marks.length
    · obtain ⟨front, back, rfl, shorter, shorter', sorted⟩ :=
        @exists_mergeSort_eq classOf _ several
      have frontMarks : ∀ mark ∈ front, classOf mark ≠ 0 := by
        intro mark member
        exact nonzero mark (by simp [member])
      have backMarks : ∀ mark ∈ back, classOf mark ≠ 0 := by
        intro mark member
        exact nonzero mark (by simp [member])
      calc arrange classOf (before ++ (front ++ back))
          = arrange classOf (before ++ front ++ back) := by rw [List.append_assoc]
        _ = arrange classOf (before ++ front.mergeSort (notAbove classOf) ++ back) :=
            arrange_append_congr (ih _ (size ▸ shorter) frontMarks before rfl) back
        _ = arrange classOf (before ++ front.mergeSort (notAbove classOf)
              ++ back.mergeSort (notAbove classOf)) :=
            ih _ (size ▸ shorter') backMarks _ rfl
        _ = _ := by
            rw [sorted]
            -- Sorting keeps marks what they are, so that the two parts may be merged.
            exact arrange_append_merge (ascending_mergeSort front)
              (fun mark member => frontMarks mark (List.mem_mergeSort.mp member))
              (fun mark member => backMarks mark (List.mem_mergeSort.mp member)) before
    · -- Fewer marks are sorted already.
      rcases marks with _ | ⟨mark, _ | ⟨other, marks⟩⟩
      · simp
      · simp
      · simp at several

/-- A run of marks is sorted behind a starter, and the text before it on its own. -/
theorem sortRuns_append_run {front run : List CodePoint} (closed : lastClassOf classOf front = 0)
    (marks : ∀ mark ∈ run, classOf mark ≠ 0) :
    sortRuns classOf (front ++ run)
      = sortRuns classOf front ++ run.mergeSort (notAbove classOf) := by
  have apart : ∀ last ∈ front.getLast?, ∀ mark ∈ run.head?,
      bothMarks classOf last mark = false := by
    intro last isLast mark _
    have starter : classOf last = 0 := by
      simpa [lastClassOf, List.getLastD_eq_getLast?, Option.mem_def.mp isLast] using closed
    simp [bothMarks, starter]
  rw [sortRuns, List.splitBy_append apart, List.flatMap_append, ← sortRuns]
  by_cases empty : run = []
  · simp [empty]
  · -- There is no starter that would divide the run.
    have whole : run.IsChain fun one other => bothMarks classOf one other := by
      apply List.Pairwise.isChain
      apply List.pairwise_of_forall_mem_list
      intro one member other member'
      simp [bothMarks, marks one member, marks other member']
    simp [List.splitBy_of_isChain empty whole]

/-- A starter stays where it is. -/
theorem sortRuns_append_starter {text : List CodePoint} {starter : CodePoint}
    (isStarter : classOf starter = 0) :
    sortRuns classOf (text ++ [starter]) = sortRuns classOf text ++ [starter] := by
  -- A starter is a run of its own.
  have apart : ∀ last ∈ text.getLast?, ∀ first ∈ [starter].head?,
      bothMarks classOf last first = false := by
    simp [bothMarks, isStarter]
  rw [sortRuns, List.splitBy_append apart, List.flatMap_append, ← sortRuns]
  simp [List.splitBy, List.splitBy.loop]

/-- Putting each code point to those before it sorts every run of marks. -/
theorem arrange_eq_sortRuns (text : List CodePoint) :
    arrange classOf text = sortRuns classOf text := by
  induction size : text.length using Nat.strongRecOn generalizing text with
  | ind _ ih =>
    -- The last run is taken off, and the starter before it.
    obtain ⟨front, run, rfl, closed, marks⟩ := @exists_run classOf text
    have sorted : OrderedAfter classOf 0 (run.mergeSort (notAbove classOf)) :=
      orderedAfter_of_ascending (ascending_mergeSort run) fun _ _ => UInt8.zero_le
    rw [arrange_append_mergeSort marks, sortRuns_append_run closed marks]
    rcases List.eq_nil_or_concat' front with rfl | ⟨before, starter, rfl⟩
    · exact arrange_of_ordered sorted
    · have isStarter : classOf starter = 0 := by simpa using closed
      have same : arrange classOf before = sortRuns classOf before :=
        ih _ (by simp [← size]) before rfl
      have ordered : Ordered classOf (sortRuns classOf before) := same ▸ ordered_arrange before
      rw [sortRuns_append_starter isStarter]
      -- What stands before the starter may be sorted beforehand, and then all is in order.
      calc arrange classOf (before ++ [starter] ++ run.mergeSort (notAbove classOf))
          = arrange classOf (sortRuns classOf before ++ [starter]
              ++ run.mergeSort (notAbove classOf)) := by
            rw [List.append_assoc, List.append_assoc]
            exact arrange_append_congr (same.trans (arrange_of_ordered ordered).symm) _
        _ = _ := arrange_of_ordered (by simp [ordered_append, ordered, isStarter, sorted, InOrder])

end SortRuns

/-- Decomposing appends to a text the full decompositions of a source, with sorted runs of marks.

Nothing is assumed of the table but that code points which are never looked up have no properties
that would matter. -/
theorem PropertyTable.decomposeOnto_eq_sortRuns {bytes : List UInt8} {table : PropertyTable}
    (loaded : load bytes = .ok table)
    (plain : ∀ code < firstWithProperties,
      table.combiningClass code = 0 ∧ (table.record code).mappingLength = 0)
    (equivalence : Equivalence) (text source : List CodePoint) :
    table.decomposeOnto equivalence text source
      = text ++ sortRuns table.combiningClass (source.flatMap (table.expand equivalence)) := by
  -- The small code points need not be looked up, since they are starters without a mapping.
  have checked := checked_of_load loaded
  have alone : ∀ code < firstWithProperties,
      table.combiningClass code = 0 ∧ table.expand equivalence code = [code] := by
    intro code small
    obtain ⟨starter, unmapped⟩ := plain code small
    have notSyllable : Hangul.isSyllable code = false := by
      have below : code.toNat < 0xA0 := UInt32.lt_iff_toNat_lt.mp small
      rw [Bool.eq_false_iff, Ne, Hangul.isSyllable_iff]
      omega
    exact ⟨starter, checked.expand_of_unmapped equivalence notSyllable unmapped⟩
  rw [decomposeOnto_eq, decomposeOnto_nil alone, arrange_eq_sortRuns]

/-- The lower mark goes before the one that the accent is mapped to, but not into the old text. -/
theorem Spacing.decomposeOnto_eq_sortRuns_accent :
    PropertyTable.load (Listed.bytes entries mapping compositions) = .ok table ∧
      (∀ code < firstWithProperties,
        table.combiningClass code = 0 ∧ (table.record code).mappingLength = 0) ∧
      table.decomposeOnto .compatibility [0x65, 0x301] [0xB4, 0x323]
        = [0x65, 0x301] ++ [0x20, 0x323, 0x301] := by
  -- The mark of the spacing accent and the dot below are one run.
  have plain : ∀ code < firstWithProperties,
      table.combiningClass code = 0 ∧ (table.record code).mappingLength = 0 := by
    intro code small
    rw [PropertyTable.combiningClass, coherent.plain code small]
    exact ⟨rfl, rfl⟩
  refine ⟨load_bytes, plain, ?_⟩
  have sorted : sortRuns table.combiningClass [0x20, 0x301, 0x323] = [0x20, 0x323, 0x301] := by
    rw [← arrange_eq_sortRuns, combiningClass_eq]
    rfl
  rw [PropertyTable.decomposeOnto_eq_sortRuns load_bytes plain, expand_accent, sorted]

end UniText
