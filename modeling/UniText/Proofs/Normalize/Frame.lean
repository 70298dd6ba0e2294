import UniText.Normalize.Basic

/-! Normalization appends: text that was there before is neither changed nor looked at. -/

namespace UniText

namespace OrderingBuffer

/-- The buffer behind a text that was there before. -/
def behind (text : List CodePoint) (buffer : OrderingBuffer) : OrderingBuffer :=
  { buffer with reversed := buffer.reversed ++ text.reverse }

/-- The open run lies within what the buffer holds. -/
def Fits (buffer : OrderingBuffer) : Prop := buffer.runLength ≤ buffer.reversed.length

@[simp] theorem text_behind (text : List CodePoint) (buffer : OrderingBuffer) :
    (buffer.behind text).text = text ++ buffer.text := by
  simp [behind, OrderingBuffer.text]

/-- A buffer onto a text is the empty one behind it. -/
theorem onto_eq_behind (text : List CodePoint) : onto text = (onto []).behind text := rfl

/-- Nothing is open in an empty buffer. -/
@[simp] theorem fits_onto (text : List CodePoint) : (onto text).Fits := Nat.zero_le _

/-- A mark is put among as many code points as it may look at, whatever is below them. -/
theorem insertMark_append (classOf : CodePoint → UInt8) (mark : CodePoint) (markClass : UInt8)
    {limit : Nat} {reversed : List CodePoint} (enough : limit ≤ reversed.length)
    (base : List CodePoint) : insertMark classOf mark markClass limit (reversed ++ base)
      = insertMark classOf mark markClass limit reversed ++ base := by
  induction reversed generalizing limit with
  | nil =>
    obtain rfl : limit = 0 := by simpa using enough
    rfl
  | cons code reversed ih =>
    cases limit with
    | zero => rfl
    | succ limit =>
      simp only [insertMark, List.cons_append]
      -- The mark goes below the first code point or stays above it, whatever the rest is.
      split
      · rw [ih (by simpa using enough), List.cons_append]
      · rfl

/-- A mark takes one place. -/
@[simp] theorem length_insertMark (classOf : CodePoint → UInt8) (mark : CodePoint)
    (markClass : UInt8) (limit : Nat) (reversed : List CodePoint) :
    (insertMark classOf mark markClass limit reversed).length = reversed.length + 1 := by
  -- The mark is put somewhere, and all others stay.
  fun_induction insertMark with simp_all

variable {table : PropertyTable} {equivalence : Equivalence}

/-- Appending a code point leaves the text before the buffer alone. -/
theorem append_behind (text : List CodePoint) {buffer : OrderingBuffer} (fits : buffer.Fits)
    (code : CodePoint) :
    (buffer.behind text).append table code = (buffer.append table code).behind text ∧
      (buffer.append table code).Fits := by
  unfold Fits at fits ⊢
  simp only [append, appendStarter, behind]
  -- A starter closes the run, and a mark joins it at the end or further in.
  by_cases starter : table.combiningClass code = 0
  · simp [starter]
  · by_cases inOrder : buffer.lastClass ≤ table.combiningClass code
    · simpa [starter, inOrder] using fits
    · simpa [starter, inOrder, insertMark_append _ _ _ fits] using fits

/-- Steps that leave the text before a buffer alone do so one after the other. -/
theorem foldl_behind {α : Type} {step : OrderingBuffer → α → OrderingBuffer}
    {text : List CodePoint} (apart : ∀ buffer, Fits buffer → ∀ item,
      step (buffer.behind text) item = (step buffer item).behind text ∧ (step buffer item).Fits)
    (items : List α) {buffer : OrderingBuffer} (fits : buffer.Fits) :
    items.foldl step (buffer.behind text) = (items.foldl step buffer).behind text ∧
      (items.foldl step buffer).Fits := by
  induction items generalizing buffer with
  | nil => exact ⟨rfl, fits⟩
  | cons item items ih =>
    -- After one step the run still lies within what the buffer holds.
    obtain ⟨same, kept⟩ := apart buffer fits item
    rw [List.foldl_cons, List.foldl_cons, same]
    exact ih kept

/-- Appending code points leaves the text before the buffer alone. -/
theorem foldl_append_behind (text codes : List CodePoint) {buffer : OrderingBuffer}
    (fits : buffer.Fits) :
    codes.foldl (append table) (buffer.behind text)
        = (codes.foldl (append table) buffer).behind text ∧
      (codes.foldl (append table) buffer).Fits :=
  -- The text before the buffer takes no part in any of the steps.
  foldl_behind (fun _ fits code => append_behind text fits code) codes fits

/-- Appending a decomposition leaves the text before the buffer alone. -/
theorem appendDecomposed_behind (text : List CodePoint) {buffer : OrderingBuffer}
    (fits : buffer.Fits) (code : CodePoint) :
    (buffer.behind text).appendDecomposed table equivalence code
        = (buffer.appendDecomposed table equivalence code).behind text ∧
      (buffer.appendDecomposed table equivalence code).Fits := by
  unfold appendDecomposed
  -- What is not looked up is a starter, and anything else is appended part by part.
  split
  · exact ⟨rfl, Nat.zero_le _⟩
  · exact foldl_append_behind text _ fits

/-- Appending decompositions leaves the text before the buffer alone. -/
theorem foldl_appendDecomposed_behind (text codes : List CodePoint) {buffer : OrderingBuffer}
    (fits : buffer.Fits) :
    codes.foldl (appendDecomposed table equivalence) (buffer.behind text)
        = (codes.foldl (appendDecomposed table equivalence) buffer).behind text ∧
      (codes.foldl (appendDecomposed table equivalence) buffer).Fits :=
  -- The text before the buffer takes no part in any of the steps.
  foldl_behind (fun _ fits code => appendDecomposed_behind text fits code) codes fits

end OrderingBuffer

namespace ComposingBuffer

/-- The buffer behind a text that was there before. -/
def behind (text : List CodePoint) (buffer : ComposingBuffer) : ComposingBuffer :=
  { buffer with before := buffer.before ++ text.reverse }

@[simp] theorem text_behind (text : List CodePoint) (buffer : ComposingBuffer) :
    (buffer.behind text).text = text ++ buffer.text := by
  simp [behind, ComposingBuffer.text, reversed]

variable {table : PropertyTable}

/-- Appending a code point leaves the text before the buffer alone. -/
theorem append_behind (text : List CodePoint) (buffer : ComposingBuffer) (code : CodePoint) :
    (buffer.behind text).append table code = (buffer.append table code).behind text := by
  have same : (buffer.behind text).composite? table code (table.combiningClass code)
      = buffer.composite? table code (table.combiningClass code) := rfl
  simp only [append, same]
  -- Taking the code point in, and opening a stretch, both keep what is before.
  split
  · rfl
  · split <;> simp [behind, reversed]

/-- Appending code points leaves the text before the buffer alone. -/
theorem foldl_append_behind (text codes : List CodePoint) (buffer : ComposingBuffer) :
    codes.foldl (append table) (buffer.behind text)
      = (codes.foldl (append table) buffer).behind text := by
  -- The text before the buffer takes no part in any of the steps.
  induction codes generalizing buffer with
  | nil => rfl
  | cons code codes ih => rw [List.foldl_cons, List.foldl_cons, append_behind, ih]

/-- What is taken in has a composite with the last starter, with lower marks only between them. -/
theorem composite?_eq_some_iff {buffer : ComposingBuffer} {code composite : CodePoint}
    {codeClass : UInt8} : buffer.composite? table code codeClass = some composite ↔
      ∃ starter, buffer.starter = some starter ∧ table.compose? starter code = some composite ∧
        (buffer.after = [] ∨ buffer.lastClass ≠ 0 ∧ buffer.lastClass < codeClass) := by
  unfold composite?
  -- Without a starter there is nothing that takes anything in.
  cases buffer.starter with
  | none => simp
  | some starter =>
    simp only [Option.some.injEq, exists_eq_left', Option.ite_none_right_eq_some, Bool.or_eq_true,
      List.isEmpty_iff, Bool.and_eq_true, decide_eq_true_eq, and_comm]

/-- A code point that no starter takes in has no composite with the last one. -/
theorem composite?_eq_none {code : CodePoint}
    (apart : ∀ starter, table.compose? starter code = none) (buffer : ComposingBuffer)
    (codeClass : UInt8) : buffer.composite? table code codeClass = none := by
  rw [Option.eq_none_iff_forall_not_mem]
  intro composite found
  -- A composite would be one with the last starter.
  obtain ⟨starter, -, composed, -⟩ := composite?_eq_some_iff.mp found
  simp [apart starter] at composed

end ComposingBuffer

namespace PropertyTable

variable {table : PropertyTable}

/-- Reordering appends to a text what it makes of the source alone. -/
theorem reorderOnto_eq (text source : List CodePoint) :
    table.reorderOnto text source = text ++ table.reorderOnto [] source := by
  -- The text stands before an empty buffer.
  rw [reorderOnto, OrderingBuffer.onto_eq_behind,
    (OrderingBuffer.foldl_append_behind text source (OrderingBuffer.fits_onto [])).1,
    OrderingBuffer.text_behind]
  rfl

/-- Decomposition appends to a text what it makes of the source alone. -/
theorem decomposeOnto_eq (equivalence : Equivalence) (text source : List CodePoint) :
    table.decomposeOnto equivalence text source
      = text ++ table.decomposeOnto equivalence [] source := by
  -- The text is where the buffer begins, and stays before it.
  rw [decomposeOnto, OrderingBuffer.onto_eq_behind,
    (OrderingBuffer.foldl_appendDecomposed_behind text source (OrderingBuffer.fits_onto [])).1,
    OrderingBuffer.text_behind]
  rfl

/-- Composition appends to a text what it makes of the source alone. -/
theorem composeOnto_eq (text source : List CodePoint) :
    table.composeOnto text source = text ++ table.composeOnto [] source := by
  -- The text is what the buffer has left behind, where nothing can join with it.
  have onto : ComposingBuffer.onto text = (ComposingBuffer.onto []).behind text := rfl
  rw [composeOnto, onto, ComposingBuffer.foldl_append_behind, ComposingBuffer.text_behind]
  rfl

/-- Normalization appends to a text what it makes of the source alone. -/
theorem normalizeOnto_eq (form : Form) (text source : List CodePoint) :
    table.normalizeOnto form text source = text ++ table.normalize form source := by
  -- Both ways to normalize leave the text alone.
  unfold normalize normalizeOnto
  split
  · exact composeOnto_eq ..
  · exact decomposeOnto_eq ..

end PropertyTable

end UniText
