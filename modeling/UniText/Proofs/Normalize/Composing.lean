import UniText.Proofs.Normalize.Ordering
import UniText.Proofs.Property.Coherence

/-! Composition undoes nothing but decomposition: what was taken in is found again in its place. -/

namespace UniText

namespace PropertyTable

/-- A code point results from its full decomposition, each part being taken in by those before it.

Unless it stands for itself, it begins with a starter and is one. -/
def Settled (table : PropertyTable) (equivalence : Equivalence) (code : CodePoint) : Prop :=
  ∃ first rest, table.expand equivalence code = first :: rest ∧
    rest.foldlM table.compose? first = some code ∧
    Ordered table.combiningClass (first :: rest) ∧
    (rest = [] ∨ table.combiningClass first = 0 ∧ table.combiningClass code = 0)

variable {table : PropertyTable} {equivalence : Equivalence}

/-- What stands for itself is settled. -/
theorem settled_of_alone {code : CodePoint} (alone : table.expand equivalence code = [code]) :
    table.Settled equivalence code :=
  ⟨code, [], alone, rfl, by simp [Ordered], .inl rfl⟩

/-- A mark that is settled stands for itself. -/
theorem Settled.expand_mark {code : CodePoint} (settled : table.Settled equivalence code)
    (mark : table.combiningClass code ≠ 0) : table.expand equivalence code = [code] := by
  -- What is made up of several code points is a starter, and a mark is none.
  obtain ⟨first, rest, expansion, composed, -, rfl | ⟨-, starter⟩⟩ := settled
  · simp only [List.foldlM_nil, Pure.pure, Option.some.injEq] at composed
    rw [expansion, composed]
  · exact absurd starter mark

/-- A starter that is settled begins with a starter. -/
theorem Settled.starts {code : CodePoint} (settled : table.Settled equivalence code)
    (starter : table.combiningClass code = 0) : ∃ first rest,
      table.expand equivalence code = first :: rest ∧
      rest.foldlM table.compose? first = some code ∧
      Ordered table.combiningClass (first :: rest) ∧ table.combiningClass first = 0 := by
  obtain ⟨first, rest, expansion, composed, ordered, rfl | ⟨opens, -⟩⟩ := settled
  · -- What stands for itself is the starter that it begins with.
    simp only [List.foldlM_nil, Pure.pure, Option.some.injEq] at composed
    subst composed
    exact ⟨first, [], expansion, rfl, ordered, starter⟩
  · exact ⟨first, rest, expansion, composed, ordered, opens⟩

/-- A syllable is settled, since its letters join to it again. -/
theorem Coherent.settled_syllable (coherent : table.Coherent) (checked : table.Checked)
    (equivalence : Equivalence) {syllable : CodePoint}
    (isSyllable : Hangul.isSyllable syllable = true) : table.Settled equivalence syllable := by
  obtain ⟨first, rest, letters_, isLeading, joined⟩ := Hangul.foldlM_join_letters isSyllable
  have starter : ∀ letter ∈ first :: rest, table.combiningClass letter = 0 := by
    intro letter member
    rw [← letters_] at member
    apply coherent.starters
    simp [Hangul.isLetter_of_mem_letters isSyllable member]
  -- All letters are starters, so that any order of them would do.
  have ordered : Ordered table.combiningClass (first :: rest) := by
    apply orderedAfter_of_ascending
    · apply List.pairwise_of_forall_mem_list
      intro one oneMember other otherMember
      simp [notAbove, starter one oneMember, starter other otherMember]
    · intro letter member
      rw [starter letter member]
      exact UInt8.le_refl _
  refine ⟨first, rest, ?_, foldlM_compose?_of_join joined, ordered,
    .inr ⟨starter first (by simp), ?_⟩⟩
  · rw [checked.expand_of_syllable _ isSyllable, letters_]
  · exact coherent.starters syllable (by simp [isSyllable])

/-- A settled starter that takes in a part that may stand behind it gives a settled starter. -/
theorem Settled.compose? (coherent : table.Coherent) (checked : table.Checked)
    {starter part composite : CodePoint} (settled : table.Settled equivalence starter)
    (isStarter : table.combiningClass starter = 0)
    (alone : table.expand equivalence part = [part])
    (fits : InOrder (lastClassOf table.combiningClass (table.expand equivalence starter))
      (table.combiningClass part))
    (composed : table.compose? starter part = some composite) :
    table.Settled equivalence composite := by
  obtain ⟨first, rest, expansion, chain, ordered, opens⟩ := settled.starts isStarter
  -- The composite decomposes into the parts of the starter with the new one behind them.
  obtain ⟨isStarter', joined⟩ := coherent.expand_of_compose? checked equivalence composed
  refine ⟨first, rest ++ [part], ?_, ?_, ?_, .inr ⟨opens, isStarter'⟩⟩
  · rw [joined, expansion, alone, List.cons_append]
  · -- The last part is taken in after all the others.
    rw [List.foldlM_append, chain]
    simp [composed]
  · rw [← List.cons_append, ordered_append_singleton]
    exact ⟨ordered, expansion ▸ fits⟩

end PropertyTable

namespace ComposingBuffer

variable {table : PropertyTable} {equivalence : Equivalence}

/-- A buffer has come from an ordered text of full decompositions.

Taking its text apart again, and putting it in order, gives that text back. -/
structure Restores (table : PropertyTable) (equivalence : Equivalence) (taken : List CodePoint)
    (buffer : ComposingBuffer) : Prop where
  restored : arrange table.combiningClass (buffer.text.flatMap (table.expand equivalence)) = taken
  settled : ∀ code ∈ buffer.text, table.Settled equivalence code
  ordered : Ordered table.combiningClass buffer.text
  /-- The text ends with no greater class than what it has come from. -/
  behind : lastClassOf table.combiningClass buffer.text
    ≤ lastClassOf table.combiningClass taken
  /-- The last starter has taken in no greater class than what it has come from ends with. -/
  starter : ∀ starter ∈ buffer.starter, table.combiningClass starter = 0 ∧
    lastClassOf table.combiningClass (table.expand equivalence starter)
      ≤ lastClassOf table.combiningClass taken
  /-- Only marks are behind the last starter, and none of a greater class than the last one. -/
  after : ∀ mark ∈ buffer.after, table.combiningClass mark ≠ 0 ∧
    table.combiningClass mark ≤ buffer.lastClass ∧
    table.combiningClass mark ≤ lastClassOf table.combiningClass taken

/-- An empty buffer has come from nothing. -/
theorem restores_onto (table : PropertyTable) (equivalence : Equivalence) :
    (onto []).Restores table equivalence [] where
  -- Nothing has been appended yet.
  restored := rfl
  settled := by simp
  ordered := by simp
  behind := by simp
  starter := by simp [onto]
  after := by simp [onto]

/-- The text is what is before the last starter, the starter, and what is after it. -/
theorem text_eq (buffer : ComposingBuffer) :
    buffer.text = buffer.before.reverse ++ (buffer.starter.toList ++ buffer.after.reverse) := by
  -- A single starter is its own reverse.
  have single : buffer.starter.toList.reverse = buffer.starter.toList := by
    cases buffer.starter <;> rfl
  simp [ComposingBuffer.text, reversed, single]

/-- Marks after the last starter stand for themselves. -/
theorem Restores.flatMap_after {taken : List CodePoint} {buffer : ComposingBuffer}
    (restores : buffer.Restores table equivalence taken) :
    buffer.after.reverse.flatMap (table.expand equivalence) = buffer.after.reverse := by
  -- They are settled, and a mark that is settled stands for itself.
  have alone : ∀ mark ∈ buffer.after.reverse, table.expand equivalence mark = [mark] := by
    intro mark member
    have inText : mark ∈ buffer.text := by
      rw [text_eq]
      simp only [List.mem_append, member, or_true]
    exact (restores.settled mark inText).expand_mark
      (restores.after mark (List.mem_reverse.mp member)).1
  rw [List.flatMap_congr alone, List.flatMap_singleton']

/-- A part that the last starter takes in returns to its place, past the marks after the starter. -/
theorem Restores.take (coherent : table.Coherent) (checked : table.Checked)
    {taken : List CodePoint} {buffer : ComposingBuffer}
    (restores : buffer.Restores table equivalence taken) {part composite : CodePoint}
    (alone : table.expand equivalence part = [part])
    (fits : InOrder (lastClassOf table.combiningClass taken) (table.combiningClass part))
    (found : buffer.composite? table part (table.combiningClass part) = some composite) :
    Restores table equivalence (taken ++ [part]) { buffer with starter := some composite } := by
  obtain ⟨starter, isLast, composed, between⟩ := composite?_eq_some_iff.mp found
  obtain ⟨isStarter, low⟩ := restores.starter starter (by simp [isLast])
  obtain ⟨isStarter', joined⟩ := coherent.expand_of_compose? checked equivalence composed
  have whole := buffer.text_eq
  have whole' := text_eq { buffer with starter := some composite }
  simp only [isLast, Option.toList_some, List.singleton_append] at whole whole'
  -- Both starters have the same class, so the order is that of the text before.
  have classes : (ComposingBuffer.text { buffer with starter := some composite }).map
      table.combiningClass = buffer.text.map table.combiningClass := by
    simp [whole, whole', isStarter, isStarter']
  obtain ⟨sameOrder, sameLast⟩ := ordered_congr classes
  -- Only a mark goes past marks, and it is above all of them.
  have marks : buffer.after = [] ∨ table.combiningClass part ≠ 0 ∧
      ∀ mark ∈ buffer.after, table.combiningClass mark ≠ 0 ∧
        table.combiningClass mark < table.combiningClass part := by
    rcases between with none | ⟨-, less⟩
    · exact .inl none
    · refine .inr ⟨?_, ?_⟩
      · intro zero
        rw [zero] at less
        exact absurd less (by simp)
      · intro mark member
        obtain ⟨isMark, below, -⟩ := restores.after mark member
        exact ⟨isMark, UInt8.lt_of_le_of_lt below less⟩
  constructor
  case restored =>
    -- The part goes back to the end, past the marks after the starter.
    have source := restores.restored
    rw [whole] at source
    rw [whole']
    simp only [List.flatMap_append, List.flatMap_cons, restores.flatMap_after, joined,
      alone] at source ⊢
    have textual : buffer.after.reverse = [] ∨ table.combiningClass part ≠ 0 ∧
        ∀ mark ∈ buffer.after.reverse, table.combiningClass mark ≠ 0 ∧
          table.combiningClass mark < table.combiningClass part := by
      simpa using marks
    have past := arrange_past textual
      (buffer.before.reverse.flatMap (table.expand equivalence) ++ table.expand equivalence starter)
    simp only [List.append_assoc, List.singleton_append] at past source ⊢
    rw [past, ← List.append_assoc, ← List.append_assoc,
      arrange_append_of_inOrder (by rwa [List.append_assoc, source]), List.append_assoc, source]
  case settled =>
    intro code member
    rw [whole'] at member
    simp only [List.mem_append, List.mem_cons] at member
    rcases member with member | rfl | member
    · exact restores.settled code (by simp [whole, member])
    · exact (restores.settled starter (by simp [whole])).compose? coherent checked isStarter alone
        (fits.mono low) composed
    · exact restores.settled code (by simp [whole, member])
  case ordered => exact sameOrder.mpr restores.ordered
  case behind =>
    -- Without marks the composite is last, and otherwise the last mark remains so.
    rw [sameLast, lastClassOf_append_singleton]
    rcases marks with none | ⟨nonzero, -⟩
    · rw [← sameLast, whole', none]
      simp [isStarter']
    · exact UInt8.le_trans restores.behind (fits.resolve_left nonzero)
  case starter =>
    intro other same
    simp only [Option.mem_some_iff] at same
    subst same
    rw [joined, alone, lastClassOf_append_singleton, lastClassOf_append_singleton]
    exact ⟨isStarter', UInt8.le_refl _⟩
  case after =>
    intro mark member
    obtain ⟨isMark, below, -⟩ := restores.after mark member
    rcases marks with none | ⟨-, above⟩
    · simp [none] at member
    · rw [lastClassOf_append_singleton]
      exact ⟨isMark, below, UInt8.le_of_lt (above mark member).2⟩

/-- A part that is not taken in stays at the end. -/
theorem Restores.push {taken : List CodePoint} {buffer : ComposingBuffer}
    (restores : buffer.Restores table equivalence taken) {part : CodePoint}
    (alone : table.expand equivalence part = [part])
    (fits : InOrder (lastClassOf table.combiningClass taken) (table.combiningClass part))
    (apart : buffer.composite? table part (table.combiningClass part) = none) :
    (buffer.append table part).Restores table equivalence (taken ++ [part]) := by
  have text := text_append apart
  -- What was behind the text is not above the part, unless that is a starter.
  have above {before : UInt8} (below : before ≤ lastClassOf table.combiningClass taken)
      (nonzero : table.combiningClass part ≠ 0) : before ≤ table.combiningClass part :=
    UInt8.le_trans below (fits.resolve_left nonzero)
  constructor
  case restored =>
    -- Taken apart, the part is itself again, and it already stands where it belongs.
    have source := restores.restored
    rw [text, List.flatMap_append, List.flatMap_singleton, alone,
      arrange_append_of_inOrder (by rwa [source]), source]
  case settled =>
    intro code member
    rw [text] at member
    rcases List.mem_append.mp member with member | member
    · exact restores.settled code member
    · obtain rfl := List.mem_singleton.mp member
      exact PropertyTable.settled_of_alone alone
  case ordered =>
    rw [text, ordered_append_singleton]
    exact ⟨restores.ordered, fits.mono restores.behind⟩
  case behind => simp [text]
  case starter =>
    intro starter same
    simp only [append, apart] at same
    rw [lastClassOf_append_singleton]
    split at same
    · -- The part is the new last starter.
      next isStarter =>
      simp only [Option.mem_some_iff] at same
      subst same
      exact ⟨isStarter, by simp [alone, lastClassOf]⟩
    · next nonzero =>
      obtain ⟨isStarter, low⟩ := restores.starter starter same
      exact ⟨isStarter, above low nonzero⟩
  case after =>
    intro mark member
    simp only [append, apart] at member ⊢
    rw [lastClassOf_append_singleton]
    split at member
    · simp at member
    · next nonzero =>
      rw [if_neg nonzero]
      rcases List.mem_cons.mp member with rfl | member
      · exact ⟨nonzero, UInt8.le_refl _, UInt8.le_refl _⟩
      · obtain ⟨isMark, -, below⟩ := restores.after mark member
        exact ⟨isMark, above below nonzero, above below nonzero⟩

/-- Appending a part that may stand behind the others keeps what a buffer has come from. -/
theorem Restores.append (coherent : table.Coherent) (checked : table.Checked)
    {taken : List CodePoint} {buffer : ComposingBuffer}
    (restores : buffer.Restores table equivalence taken) {part : CodePoint}
    (alone : table.expand equivalence part = [part])
    (fits : InOrder (lastClassOf table.combiningClass taken) (table.combiningClass part)) :
    (buffer.append table part).Restores table equivalence (taken ++ [part]) := by
  -- Either the last starter takes the part in, or it goes to the end.
  cases found : buffer.composite? table part (table.combiningClass part) with
  | none => exact restores.push alone fits found
  | some composite =>
    have appended : buffer.append table part = { buffer with starter := some composite } := by
      simp only [ComposingBuffer.append, found]
    rw [appended]
    exact restores.take coherent checked alone fits found

/-- A whole ordered text of full decompositions is restored from its composition. -/
theorem restores_foldl (coherent : table.Coherent) (checked : table.Checked)
    {parts : List CodePoint} (ordered : Ordered table.combiningClass parts)
    (alone : ∀ part ∈ parts, table.expand equivalence part = [part]) :
    (parts.foldl (ComposingBuffer.append table) (onto [])).Restores table equivalence parts := by
  -- The parts are appended one by one, so that the induction adds one at the end.
  induction parts using List.reverseRecOn with
  | nil => exact restores_onto table equivalence
  | append_singleton parts part ih =>
    obtain ⟨orderedBefore, fits⟩ := ordered_append_singleton.mp ordered
    have aloneBefore : ∀ other ∈ parts, table.expand equivalence other = [other] := by
      intro other member
      exact alone other (by simp [member])
    rw [List.foldl_append]
    exact (ih orderedBefore aloneBefore).append coherent checked (alone part (by simp)) fits

end ComposingBuffer

namespace PropertyTable

variable {table : PropertyTable} {equivalence : Equivalence}

/-- Decomposing the composition of an ordered text of full decompositions gives that text back. -/
theorem Coherent.decompose_compose (coherent : table.Coherent) (checked : table.Checked)
    {parts : List CodePoint} (ordered : Ordered table.combiningClass parts)
    (alone : ∀ part ∈ parts, table.expand equivalence part = [part]) :
    table.decomposeOnto equivalence [] (table.composeOnto [] parts) = parts := by
  -- Decomposing takes every code point apart and puts the parts in order, which restores them.
  rw [decomposeOnto_nil fun _ small => coherent.expand_plain checked equivalence small]
  exact (ComposingBuffer.restores_foldl coherent checked ordered alone).restored

end PropertyTable

end UniText
