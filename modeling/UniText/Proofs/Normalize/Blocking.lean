import UniText.Proofs.Normalize.Composing

/-! Composition by the blocking rule: the last starter takes in what nothing keeps apart from it. -/

namespace UniText

/-- Takes a text apart at its last starter, into what is before it and what is behind it. -/
def atLastStarter? (classOf : CodePoint → UInt8) :
    List CodePoint → Option (List CodePoint × CodePoint × List CodePoint)
  | [] => none
  | code :: rest =>
    -- A later starter goes before an earlier one.
    match atLastStarter? classOf rest with
    | some (before, starter, behind) => some (code :: before, starter, behind)
    | none => if classOf code = 0 then some ([], code, rest) else none

/-- A code point is blocked by a starter before it, and by a mark whose class is not lower. -/
def Blocked (classOf : CodePoint → UInt8) (between : List CodePoint) (code : CodePoint) : Prop :=
  ∃ other ∈ between, classOf other = 0 ∨ classOf code ≤ classOf other

instance (classOf : CodePoint → UInt8) (between : List CodePoint) (code : CodePoint) :
    Decidable (Blocked classOf between code) :=
  inferInstanceAs (Decidable (∃ other ∈ between, classOf other = 0 ∨ classOf code ≤ classOf other))

namespace PropertyTable

/-- The text after one more code point, which its last starter takes in unless it is blocked. -/
def extendByRule (table : PropertyTable) (text : List CodePoint) (code : CodePoint) :
    List CodePoint :=
  match atLastStarter? table.combiningClass text with
  | none => text ++ [code]
  | some (before, starter, between) =>
    if Blocked table.combiningClass between code then text ++ [code]
    else match table.compose? starter code with
      -- What stands between the starter and the code point stays where it is.
      | some composite => before ++ composite :: between
      | none => text ++ [code]

/-- The composition of a text by the blocking rule, from its first code point to its last. -/
def composeByRule (table : PropertyTable) (source : List CodePoint) : List CodePoint :=
  source.foldl table.extendByRule []

end PropertyTable

section LastStarter

variable {classOf : CodePoint → UInt8}

/-- A text of marks has no last starter. -/
theorem atLastStarter?_eq_none {text : List CodePoint} (marks : ∀ code ∈ text, classOf code ≠ 0) :
    atLastStarter? classOf text = none := by
  -- A text that consists of marks has no starter to begin with.
  induction text with
  | nil => rfl
  | cons code rest ih =>
    rw [List.forall_mem_cons] at marks
    rw [atLastStarter?, ih marks.2]
    exact if_neg marks.1

/-- The last starter is the one with nothing but marks behind it. -/
theorem atLastStarter?_eq_some {starter : CodePoint} {behind : List CodePoint}
    (isStarter : classOf starter = 0) (marks : ∀ code ∈ behind, classOf code ≠ 0)
    (before : List CodePoint) :
    atLastStarter? classOf (before ++ starter :: behind) = some (before, starter, behind) := by
  -- The search goes past whatever stands before, as there is a starter later.
  induction before with
  | nil =>
    rw [List.nil_append, atLastStarter?, atLastStarter?_eq_none marks]
    exact if_pos isStarter
  | cons code before ih => rw [List.cons_append, atLastStarter?, ih]

end LastStarter

namespace ComposingBuffer

variable {table : PropertyTable}

/-- A buffer has come from an ordered text, and tells of its last starter what the rule asks for. -/
structure Follows (table : PropertyTable) (taken : List CodePoint) (buffer : ComposingBuffer) :
    Prop where
  /-- Without a starter everything counts as behind it. -/
  bare : buffer.starter = none → buffer.before = []
  starter : ∀ starter ∈ buffer.starter, table.combiningClass starter = 0
  /-- Only marks are behind the last starter, and the last of them has the greatest class. -/
  after : ∀ mark ∈ buffer.after, table.combiningClass mark ≠ 0 ∧
    table.combiningClass mark ≤ buffer.lastClass ∧
    table.combiningClass mark ≤ lastClassOf table.combiningClass taken
  last : ∀ mark ∈ buffer.after.head?, table.combiningClass mark = buffer.lastClass

/-- An empty buffer has come from nothing. -/
theorem follows_onto (table : PropertyTable) : (onto []).Follows table [] where
  -- Nothing has been appended yet, and there is no starter.
  bare _ := rfl
  starter := by simp [onto]
  after := by simp [onto]
  last := by simp [onto]

/-- The last starter of the text is that of the buffer. -/
theorem Follows.atLastStarter?_text {taken : List CodePoint} {buffer : ComposingBuffer}
    (follows : buffer.Follows table taken) : atLastStarter? table.combiningClass buffer.text
      = buffer.starter.map fun starter =>
          (buffer.before.reverse, starter, buffer.after.reverse) := by
  have marks : ∀ mark ∈ buffer.after.reverse, table.combiningClass mark ≠ 0 := by
    intro mark member
    exact (follows.after mark (List.mem_reverse.mp member)).1
  rw [text_eq]
  cases opened : buffer.starter with
  | none =>
    -- Without a starter the text is what is behind it.
    rw [follows.bare opened]
    exact atLastStarter?_eq_none marks
  | some starter => exact atLastStarter?_eq_some (follows.starter starter opened) marks _

/-- The class of the last mark alone tells whether a code point is blocked.

All other marks between it and the starter have no greater class. -/
theorem Follows.blocked_iff {taken : List CodePoint} {buffer : ComposingBuffer}
    (follows : buffer.Follows table taken) (code : CodePoint) :
    ¬Blocked table.combiningClass buffer.after.reverse code ↔
      buffer.after = [] ∨ buffer.lastClass ≠ 0 ∧ buffer.lastClass < table.combiningClass code := by
  unfold Blocked
  simp only [List.mem_reverse, not_exists, not_and, not_or, UInt8.not_le]
  constructor
  · intro free
    cases behind : buffer.after with
    | nil => exact .inl rfl
    | cons mark rest =>
      -- The last mark does not block, and its class is the one that is remembered.
      have same := follows.last mark (by simp [behind])
      have ⟨isMark, below⟩ := free mark (by simp [behind])
      exact .inr (same ▸ ⟨isMark, below⟩)
  · rintro (none | ⟨-, below⟩) mark member
    · simp [none] at member
    · obtain ⟨isMark, atMost, -⟩ := follows.after mark member
      exact ⟨isMark, UInt8.lt_of_le_of_lt atMost below⟩

/-- The last starter takes a code point in exactly when the rule says so. -/
theorem Follows.text_append {taken : List CodePoint} {buffer : ComposingBuffer}
    (follows : buffer.Follows table taken) (code : CodePoint) :
    (buffer.append table code).text = table.extendByRule buffer.text code := by
  have free := follows.blocked_iff code
  unfold PropertyTable.extendByRule
  rw [follows.atLastStarter?_text]
  cases found : buffer.composite? table code (table.combiningClass code) with
  | some composite =>
    obtain ⟨starter, opened, composed, between⟩ := composite?_eq_some_iff.mp found
    have appended : buffer.append table code = { buffer with starter := some composite } := by
      simp only [append, found]
    simp [appended, text_eq, opened, composed, free.mpr between]
  | none =>
    rw [ComposingBuffer.text_append found]
    cases opened : buffer.starter with
    | none => rfl
    | some starter =>
      simp only [Option.map_some]
      split
      · rfl
      · -- What is not blocked has no composite with the starter.
        next unblocked =>
        have apart : table.compose? starter code = none := by
          rw [Option.eq_none_iff_forall_not_mem]
          intro composite composed
          have taken := composite?_eq_some_iff.mpr ⟨starter, opened, composed, free.mp unblocked⟩
          simp [found] at taken
        rw [apart]

/-- A code point that may stand behind the text keeps what a buffer tells of its last starter. -/
theorem Follows.append {taken : List CodePoint} {buffer : ComposingBuffer}
    (follows : buffer.Follows table taken)
    (starters : ∀ first second composite, table.compose? first second = some composite →
      table.combiningClass composite = 0)
    {code : CodePoint}
    (fits : InOrder (lastClassOf table.combiningClass taken) (table.combiningClass code)) :
    (buffer.append table code).Follows table (taken ++ [code]) := by
  cases found : buffer.composite? table code (table.combiningClass code) with
  | some composite =>
    obtain ⟨starter, opened, composed, between⟩ := composite?_eq_some_iff.mp found
    have appended : buffer.append table code = { buffer with starter := some composite } := by
      simp only [ComposingBuffer.append, found]
    rw [appended]
    refine ⟨by simp, ?_, ?_, follows.last⟩
    · intro other same
      obtain rfl : composite = other := by simpa using same
      exact starters _ _ _ composed
    · intro mark member
      obtain ⟨isMark, below, -⟩ := follows.after mark member
      rw [lastClassOf_append_singleton]
      -- What is taken in past marks is above all of them.
      rcases between with none | ⟨-, above⟩
      · simp [none] at member
      · exact ⟨isMark, below, UInt8.le_trans below (UInt8.le_of_lt above)⟩
  | none =>
    simp only [ComposingBuffer.append, found]
    split
    · next isStarter =>
      -- A starter that is not taken in is the last one from here on.
      exact ⟨by simp, by simpa using isStarter, by simp, by simp⟩
    · next isMark =>
      refine ⟨follows.bare, follows.starter, ?_, by simp⟩
      intro mark member
      rw [lastClassOf_append_singleton]
      rcases List.mem_cons.mp member with rfl | member
      · exact ⟨isMark, UInt8.le_refl _, UInt8.le_refl _⟩
      · obtain ⟨nonzero, -, below⟩ := follows.after mark member
        have above := UInt8.le_trans below (fits.resolve_left isMark)
        exact ⟨nonzero, above, above⟩

/-- A whole ordered text is composed as the rule says. -/
theorem follows_foldl (starters : ∀ first second composite,
      table.compose? first second = some composite → table.combiningClass composite = 0)
    {source : List CodePoint} (ordered : Ordered table.combiningClass source) :
    (source.foldl (ComposingBuffer.append table) (onto [])).Follows table source ∧
      (source.foldl (ComposingBuffer.append table) (onto [])).text
        = table.composeByRule source := by
  -- The code points are appended one by one, so that the induction adds one at the end.
  induction source using List.reverseRecOn with
  | nil => exact ⟨follows_onto table, text_onto []⟩
  | append_singleton source code ih =>
    obtain ⟨orderedBefore, fits⟩ := ordered_append_singleton.mp ordered
    obtain ⟨follows, same⟩ := ih orderedBefore
    unfold PropertyTable.composeByRule at same ⊢
    simp only [List.foldl_append, List.foldl_cons, List.foldl_nil]
    exact ⟨follows.append starters fits, by rw [follows.text_append, same]⟩

end ComposingBuffer

namespace PropertyTable

variable {table : PropertyTable}

/-- Composing a text in canonical order follows the blocking rule, if all composites are starters.

Each code point in turn is taken in by the last starter before it, unless another starter or a mark
of no lower class stands between the two. -/
theorem composeOnto_eq_composeByRule (starters : ∀ first second composite,
      table.compose? first second = some composite → table.combiningClass composite = 0)
    {source : List CodePoint} (ordered : Ordered table.combiningClass source)
    (text : List CodePoint) :
    table.composeOnto text source = text ++ table.composeByRule source := by
  -- The buffer follows the rule at every code point that is appended.
  rw [composeOnto_eq, ← (ComposingBuffer.follows_foldl starters ordered).2]
  rfl

/-- A letter takes in its accent past a mark of a lower class, and letters join to a syllable. -/
theorem composeOnto_eq_composeByRule_accents :
    (∀ first second composite, Accents.table.compose? first second = some composite →
      Accents.table.combiningClass composite = 0) ∧
      Ordered Accents.table.combiningClass [0x65, 0x323, 0x301, 0x1100, 0x1161, 0x301, 0x11A8] ∧
      Accents.table.composeOnto [0x65] [0x65, 0x323, 0x301, 0x1100, 0x1161, 0x301, 0x11A8]
        = [0x65] ++
          Accents.table.composeByRule [0x65, 0x323, 0x301, 0x1100, 0x1161, 0x301, 0x11A8] := by
  -- The accent passes the dot below, and a second one keeps the consonant from its syllable.
  have starters : ∀ first second composite,
      Accents.table.compose? first second = some composite →
        Accents.table.combiningClass composite = 0 := by
    intro first second composite composed
    exact (coherent_accents.expand_of_compose? (checked_of_load Accents.load_bytes) .canonical
      composed).1
  have ordered : Ordered Accents.table.combiningClass
      [0x65, 0x323, 0x301, 0x1100, 0x1161, 0x301, 0x11A8] := by
    simp [Ordered, Accents.combiningClass_eq, InOrder]
  exact ⟨starters, ordered, composeOnto_eq_composeByRule starters ordered [0x65]⟩

end PropertyTable

end UniText
