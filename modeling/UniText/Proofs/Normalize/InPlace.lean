import UniText.Proofs.Normalize.Frame
import UniText.Normalize.Stream

/-! Normalization in place: a text changed by index, none of whose old places is ever written to. -/

namespace UniText

/-- To insert into the front of a text does not move what is behind. -/
theorem insertIdx_append_left {α : Type} {index : Nat} {front : List α}
    (inside : index ≤ front.length) (item : α) (back : List α) :
    (front ++ back).insertIdx index item = front.insertIdx index item ++ back := by
  induction front generalizing index with
  | nil =>
    obtain rfl : index = 0 := by simpa using inside
    rfl
  | cons first front ih =>
    -- The index is the first one, or lies among the rest of the front.
    cases index with
    | zero => rfl
    | succ index =>
      simp only [List.cons_append, List.insertIdx_succ_cons]
      rw [ih (by simpa using inside)]

/-- A text in which a mark is inserted at its index in the last run. -/
structure IndexedOrdering where
  /-- The text, with what was there before. -/
  text : List CodePoint
  /-- The index at which the open run begins, in front of which everything is fixed. -/
  runStart : Nat
  /-- The greatest class in the open run, zero when there is none. -/
  lastClass : UInt8

namespace IndexedOrdering

/-- A text to append to, all of which is fixed. -/
def onto (text : List CodePoint) : IndexedOrdering := ⟨text, text.length, 0⟩

/-- The index for a mark: back from an index over the marks of a greater class, as far as the run
goes. -/
def seek (classOf : CodePoint → UInt8) (markClass : UInt8) (text : List CodePoint)
    (runStart : Nat) : (index : Nat) → Nat
  | 0 => 0
  | index + 1 =>
    if runStart ≤ index ∧ ∃ code ∈ text[index]?, markClass < classOf code then
      seek classOf markClass text runStart index
    else index + 1

/-- Appends a starter, behind which everything is fixed. -/
def appendStarter (indexed : IndexedOrdering) (code : CodePoint) : IndexedOrdering :=
  ⟨indexed.text ++ [code], indexed.text.length + 1, 0⟩

/-- Appends a code point, or inserts it into the run. -/
def append (table : PropertyTable) (indexed : IndexedOrdering) (code : CodePoint) :
    IndexedOrdering :=
  let codeClass := table.combiningClass code
  if codeClass = 0 then indexed.appendStarter code
  else if indexed.lastClass ≤ codeClass then
    { indexed with text := indexed.text ++ [code], lastClass := codeClass }
  else
    let index := seek table.combiningClass codeClass indexed.text indexed.runStart
      indexed.text.length
    { indexed with text := indexed.text.insertIdx index code }

/-- Appends the full decomposition of a code point. -/
def appendDecomposed (table : PropertyTable) (equivalence : Equivalence)
    (indexed : IndexedOrdering) (code : CodePoint) : IndexedOrdering :=
  if code < firstWithProperties then indexed.appendStarter code
  else (table.expand equivalence code).foldl (append table) indexed

/-- What a search looks at is in front of the index that it begins at. -/
theorem seek_append (classOf : CodePoint → UInt8) (markClass : UInt8) {text : List CodePoint}
    (runStart : Nat) {index : Nat} (inside : index ≤ text.length) (back : List CodePoint) :
    seek classOf markClass (text ++ back) runStart index
      = seek classOf markClass text runStart index := by
  -- The search goes to the front and never looks behind the index.
  induction index with
  | zero => rfl
  | succ index ih =>
    rw [seek, seek, List.getElem?_append_left inside, ih (Nat.le_of_succ_le inside)]

/-- A search goes back, if anywhere. -/
theorem seek_le (classOf : CodePoint → UInt8) (markClass : UInt8) (text : List CodePoint)
    (runStart index : Nat) : seek classOf markClass text runStart index ≤ index := by
  -- Each step of the search goes down by one.
  induction index with
  | zero => exact Nat.le_refl 0
  | succ index ih =>
    rw [seek]
    split
    · omega
    · exact Nat.le_refl _

/-- To insert at the index that is found is to put the mark below those of a greater class. -/
theorem insertIdx_seek (classOf : CodePoint → UInt8) (mark : CodePoint) (markClass : UInt8)
    {limit : Nat} {reversed : List CodePoint} (enough : limit ≤ reversed.length) :
    reversed.reverse.insertIdx (seek classOf markClass reversed.reverse
        (reversed.length - limit) reversed.length) mark
      = (OrderingBuffer.insertMark classOf mark markClass limit reversed).reverse := by
  induction reversed generalizing limit with
  | nil =>
    obtain rfl : limit = 0 := by simpa using enough
    rfl
  | cons code reversed ih =>
    -- The search begins at the last code point of the text.
    have last : (code :: reversed).reverse[reversed.length]? = some code := by
      rw [List.reverse_cons, List.getElem?_append_right (by simp)]
      simp
    cases limit with
    | zero =>
      have fixed : ¬(reversed.length + 1 ≤ reversed.length) := by omega
      have whole : reversed.length + 1 = (code :: reversed).reverse.length := by simp
      simp only [Nat.sub_zero, List.length_cons, seek, fixed, false_and, if_false,
        OrderingBuffer.insertMark]
      rw [whole, List.insertIdx_length_self]
      simp
    | succ limit =>
      have short : limit ≤ reversed.length := by simpa using enough
      have start : reversed.length + 1 - (limit + 1) = reversed.length - limit := by omega
      have open_ : reversed.length - limit ≤ reversed.length := Nat.sub_le ..
      simp only [List.length_cons, seek, last, start, open_, true_and, Option.mem_some_iff,
        exists_eq_left', OrderingBuffer.insertMark]
      split
      · -- A greater mark stays behind, and the search goes on in front of it.
        have front : seek classOf markClass reversed.reverse (reversed.length - limit)
            reversed.length ≤ reversed.reverse.length := by
          rw [List.length_reverse]
          exact seek_le ..
        rw [List.reverse_cons, List.reverse_cons, seek_append _ _ _ (by simp),
          insertIdx_append_left front, ih short]
      · have whole : reversed.length + 1 = (code :: reversed).reverse.length := by simp
        rw [whole, List.insertIdx_length_self]
        simp

end IndexedOrdering

namespace OrderingBuffer

/-- The same text, with the open run given by the index at which it begins. -/
def indexed (buffer : OrderingBuffer) : IndexedOrdering :=
  ⟨buffer.text, buffer.text.length - buffer.runLength, buffer.lastClass⟩

/-- A text to append to is the same one. -/
theorem indexed_onto (text : List CodePoint) : (onto text).indexed = .onto text := by
  simp [indexed, onto, OrderingBuffer.text, IndexedOrdering.onto]

/-- A starter is appended alike. -/
theorem indexed_appendStarter (buffer : OrderingBuffer) (code : CodePoint) :
    buffer.indexed.appendStarter code = (buffer.appendStarter code).indexed := by
  simp [indexed, IndexedOrdering.appendStarter, appendStarter, OrderingBuffer.text]

variable {table : PropertyTable} {equivalence : Equivalence}

/-- To append by index is to append to the open run. -/
theorem indexed_append {buffer : OrderingBuffer} (fits : buffer.Fits) (code : CodePoint) :
    buffer.indexed.append table code = (buffer.append table code).indexed := by
  have run : buffer.runLength ≤ buffer.reversed.length := fits
  unfold IndexedOrdering.append append
  by_cases starter : table.combiningClass code = 0
  · simp only [starter, if_true, indexed_appendStarter]
  · simp only [starter, if_false]
    -- A place is searched only for a mark that is out of order.
    by_cases inOrder : buffer.lastClass ≤ table.combiningClass code
    · simp [inOrder, indexed, OrderingBuffer.text]
    · -- The run begins as far from the end as it is long.
      have inserted := IndexedOrdering.insertIdx_seek table.combiningClass code
        (table.combiningClass code) run
      have moved : buffer.reversed.length + 1 - (buffer.runLength + 1)
          = buffer.reversed.length - buffer.runLength := by
        omega
      simp [inOrder, indexed, OrderingBuffer.text, inserted, moved]

/-- Steps that are alike, and keep a run within what is held, are alike one after the other. -/
theorem indexed_foldl {step : OrderingBuffer → CodePoint → OrderingBuffer}
    {stepIndexed : IndexedOrdering → CodePoint → IndexedOrdering}
    (alike : ∀ buffer, Fits buffer → ∀ code,
      stepIndexed buffer.indexed code = (step buffer code).indexed ∧ (step buffer code).Fits)
    (codes : List CodePoint) {buffer : OrderingBuffer} (fits : buffer.Fits) :
    codes.foldl stepIndexed buffer.indexed = (codes.foldl step buffer).indexed := by
  induction codes generalizing buffer with
  | nil => rfl
  | cons code codes ih =>
    -- After one step the run still lies within what the buffer holds.
    obtain ⟨same, kept⟩ := alike buffer fits code
    rw [List.foldl_cons, List.foldl_cons, same, ih kept]

/-- Code points are appended alike. -/
theorem indexed_foldl_append (codes : List CodePoint) {buffer : OrderingBuffer}
    (fits : buffer.Fits) : codes.foldl (IndexedOrdering.append table) buffer.indexed
      = (codes.foldl (append table) buffer).indexed :=
  -- Every step is alike in both, and leaves the buffer fit for the next one.
  indexed_foldl
    (fun _ fits code => ⟨indexed_append fits code, (append_behind [] fits code).2⟩) codes fits

/-- A decomposition is appended alike. -/
theorem indexed_appendDecomposed {buffer : OrderingBuffer} (fits : buffer.Fits)
    (code : CodePoint) : buffer.indexed.appendDecomposed table equivalence code
      = (buffer.appendDecomposed table equivalence code).indexed := by
  unfold IndexedOrdering.appendDecomposed appendDecomposed
  -- A code point without properties is a starter, and any other one is appended part by part.
  split
  · exact indexed_appendStarter buffer code
  · exact indexed_foldl_append _ fits

/-- Decompositions are appended alike. -/
theorem indexed_foldl_appendDecomposed (codes : List CodePoint) {buffer : OrderingBuffer}
    (fits : buffer.Fits) :
    codes.foldl (IndexedOrdering.appendDecomposed table equivalence) buffer.indexed
      = (codes.foldl (appendDecomposed table equivalence) buffer).indexed :=
  -- Every step is alike in both, and leaves the buffer fit for the next one.
  indexed_foldl (fun _ fits code =>
    ⟨indexed_appendDecomposed fits code, (appendDecomposed_behind [] fits code).2⟩) codes fits

end OrderingBuffer

/-- A text in which the last starter is overwritten at its index. -/
structure IndexedComposing where
  /-- The text, with what was there before. -/
  text : List CodePoint
  /-- The index of the last starter, once there is one. -/
  starter : Option Nat
  /-- The class of the code point that was appended last. -/
  lastClass : UInt8

namespace IndexedComposing

/-- A text to append to, none of which takes part in composition. -/
def onto (text : List CodePoint) : IndexedComposing := ⟨text, none, 0⟩

/-- The index of the last starter, and its composite with a code point that nothing keeps apart
from it. -/
def composite? (table : PropertyTable) (indexed : IndexedComposing) (code : CodePoint)
    (codeClass : UInt8) : Option (Nat × CodePoint) := do
  let place ← indexed.starter
  let starter ← indexed.text[place]?
  -- The starter is the last code point, or only lower marks are behind it.
  if indexed.text.length - 1 = place ∨ indexed.lastClass ≠ 0 ∧ indexed.lastClass < codeClass then
    let composite ← table.compose? starter code
    return (place, composite)
  else none

/-- Appends a code point, or writes a composite over the last starter. -/
def append (table : PropertyTable) (indexed : IndexedComposing) (code : CodePoint) :
    IndexedComposing :=
  let codeClass := table.combiningClass code
  match indexed.composite? table code codeClass with
  | some (place, composite) => { indexed with text := indexed.text.set place composite }
  | none =>
    ⟨indexed.text ++ [code], if codeClass = 0 then some indexed.text.length else indexed.starter,
      codeClass⟩

end IndexedComposing

namespace ComposingBuffer

/-- The same text, with the last starter given by its index. -/
def indexed (buffer : ComposingBuffer) : IndexedComposing :=
  ⟨buffer.text, buffer.starter.map fun _ => buffer.before.length, buffer.lastClass⟩

/-- A text to append to is the same one. -/
theorem indexed_onto (text : List CodePoint) : (onto text).indexed = .onto text := by
  simp [indexed, onto, ComposingBuffer.text, reversed, IndexedComposing.onto]

/-- The last starter stands between what is before and what is after it. -/
theorem text_of_starter {buffer : ComposingBuffer} {starter : CodePoint}
    (held : buffer.starter = some starter) :
    buffer.text = buffer.before.reverse ++ starter :: buffer.after.reverse := by
  -- The starter stands between what is settled and the marks behind it.
  simp [ComposingBuffer.text, reversed, held]

variable {table : PropertyTable}

/-- The same composite is found, at the index of the last starter. -/
theorem indexed_composite? (buffer : ComposingBuffer) (code : CodePoint) (codeClass : UInt8) :
    buffer.indexed.composite? table code codeClass
      = (buffer.composite? table code codeClass).map fun composite =>
        (buffer.before.length, composite) := by
  unfold IndexedComposing.composite? composite?
  cases held : buffer.starter with
  | none =>
    -- Without a starter there is nothing that takes anything in.
    simp [indexed, held]
  | some starter =>
    have whole := text_of_starter held
    have there : buffer.text[buffer.before.length]? = some starter := by simp [whole]
    -- The starter is the last code point exactly when nothing is after it.
    have adjacent : buffer.text.length - 1 = buffer.before.length ↔ buffer.after = [] := by
      simp [whole]
    simp only [indexed, held, Option.map_some, Option.bind_eq_bind, Option.bind_some, there,
      adjacent, Bool.or_eq_true, List.isEmpty_iff, Bool.and_eq_true, decide_eq_true_eq]
    split
    · cases table.compose? starter code <;> rfl
    · rfl

/-- To write over the last starter is to let it take a code point in. -/
theorem indexed_append (buffer : ComposingBuffer) (code : CodePoint) :
    buffer.indexed.append table code = (buffer.append table code).indexed := by
  unfold IndexedComposing.append append
  simp only [indexed_composite?]
  cases found : buffer.composite? table code (table.combiningClass code) with
  | none =>
    simp only [Option.map_none]
    -- A starter opens a stretch where the text ended, and a mark leaves the last one open.
    split
    · simp only [indexed, ComposingBuffer.text, reversed, List.length_reverse]
      simp
    · simp [indexed, ComposingBuffer.text, reversed]
  | some composite =>
    -- Only a starter takes anything in.
    obtain ⟨starter, held, -⟩ := composite?_eq_some_iff.mp found
    simp [indexed, held, ComposingBuffer.text, reversed, List.set_append_right]

/-- Code points are appended alike. -/
theorem indexed_foldl_append (codes : List CodePoint) (buffer : ComposingBuffer) :
    codes.foldl (IndexedComposing.append table) buffer.indexed
      = (codes.foldl (append table) buffer).indexed := by
  -- Every step is alike in both.
  induction codes generalizing buffer with
  | nil => rfl
  | cons code codes ih => rw [List.foldl_cons, List.foldl_cons, indexed_append, ih]

end ComposingBuffer

namespace PropertyTable

/-- Appends code points to a text in canonical order, each mark inserted at its index. -/
def reorderInPlace (table : PropertyTable) (text source : List CodePoint) : List CodePoint :=
  (source.foldl (IndexedOrdering.append table) (.onto text)).text

/-- Appends the decomposition of a source to a text, each mark inserted at its index. -/
def decomposeInPlace (table : PropertyTable) (equivalence : Equivalence)
    (text source : List CodePoint) : List CodePoint :=
  (source.foldl (IndexedOrdering.appendDecomposed table equivalence) (.onto text)).text

/-- Appends the composition of a source to a text, each composite written over a starter. -/
def composeInPlace (table : PropertyTable) (text source : List CodePoint) : List CodePoint :=
  (source.foldl (IndexedComposing.append table) (.onto text)).text

/-- Appends the normalization of a source to a text, by index. -/
def normalizeInPlace (table : PropertyTable) (form : Form) (text source : List CodePoint) :
    List CodePoint :=
  if form.isComposing then
    table.composeInPlace text (table.decomposeInPlace form.equivalence [] source)
  else table.decomposeInPlace form.equivalence text source

variable {table : PropertyTable}

/-- Reordering by index is reordering. -/
theorem reorderInPlace_eq (text source : List CodePoint) :
    table.reorderInPlace text source = table.reorderOnto text source := by
  -- Both begin behind the text that is there and make the same steps.
  rw [reorderInPlace, reorderOnto, ← OrderingBuffer.indexed_onto,
    OrderingBuffer.indexed_foldl_append source (OrderingBuffer.fits_onto text)]
  rfl

/-- Decomposition by index is decomposition. -/
theorem decomposeInPlace_eq (equivalence : Equivalence) (text source : List CodePoint) :
    table.decomposeInPlace equivalence text source
      = table.decomposeOnto equivalence text source := by
  -- Both begin behind the text that is there and make the same steps.
  rw [decomposeInPlace, decomposeOnto, ← OrderingBuffer.indexed_onto,
    OrderingBuffer.indexed_foldl_appendDecomposed source (OrderingBuffer.fits_onto text)]
  rfl

/-- Composition by index is composition. -/
theorem composeInPlace_eq (text source : List CodePoint) :
    table.composeInPlace text source = table.composeOnto text source := by
  -- Both begin behind the text that is there and make the same steps.
  rw [composeInPlace, composeOnto, ← ComposingBuffer.indexed_onto,
    ComposingBuffer.indexed_foldl_append]
  rfl

/-- Normalization by index is normalization. -/
theorem normalizeInPlace_eq (form : Form) (text source : List CodePoint) :
    table.normalizeInPlace form text source = table.normalizeOnto form text source := by
  simp only [normalizeInPlace, normalizeOnto, composeInPlace_eq, decomposeInPlace_eq]

end PropertyTable

namespace NormalizingStream

/-- A stream appends to a text what it takes in, and answers and holds back the same. -/
theorem pushOnto_eq_append (table : PropertyTable) (stream : NormalizingStream)
    (text chunk : List CodePoint) : stream.pushOnto table text chunk
      = ((stream.pushOnto table [] chunk).1, text ++ (stream.pushOnto table [] chunk).2.1,
        (stream.pushOnto table [] chunk).2.2) := by
  unfold pushOnto
  cases PropertyTable.checkRange chunk with
  | error fault => simp
  | ok =>
    simp only
    -- Up to a boundary the text is normalized, and without one nothing is appended.
    split
    · rw [PropertyTable.normalizeOnto_eq _ text]
      simp [PropertyTable.normalize]
    · simp

/-- A stream that ends appends to a text what it held back. -/
theorem flushOnto_eq_append (table : PropertyTable) (stream : NormalizingStream)
    (text : List CodePoint) : stream.flushOnto table text
      = (text ++ (stream.flushOnto table []).1, (stream.flushOnto table []).2) := by
  -- What was held is normalized and put behind the text.
  rw [flushOnto, PropertyTable.normalizeOnto_eq _ text]
  rfl

end NormalizingStream

/-- What was in a text stays there, and what is appended to it does not depend on it.

The marks that are inserted, and the starters that are written over, are found by their indices in
the whole text, and are never the ones that were there before. -/
theorem PropertyTable.inPlace_eq_append (table : PropertyTable) (text source : List CodePoint) :
    (table.reorderInPlace text source = table.reorderOnto text source ∧
      table.reorderOnto text source = text ++ table.reorderOnto [] source) ∧
    (∀ equivalence,
      table.decomposeInPlace equivalence text source
          = table.decomposeOnto equivalence text source ∧
        table.decomposeOnto equivalence text source
          = text ++ table.decomposeOnto equivalence [] source) ∧
    (table.composeInPlace text source = table.composeOnto text source ∧
      table.composeOnto text source = text ++ table.composeOnto [] source) ∧
    (∀ form,
      table.normalizeInPlace form text source = table.normalizeOnto form text source ∧
        table.normalizeOnto form text source = text ++ table.normalizeOnto form [] source) ∧
    ∀ stream : NormalizingStream,
      (stream.pushOnto table text source
        = ((stream.pushOnto table [] source).1, text ++ (stream.pushOnto table [] source).2.1,
          (stream.pushOnto table [] source).2.2)) ∧
      stream.flushOnto table text
        = (text ++ (stream.flushOnto table []).1, (stream.flushOnto table []).2) :=
  ⟨⟨reorderInPlace_eq text source, reorderOnto_eq text source⟩,
    fun equivalence =>
      ⟨decomposeInPlace_eq equivalence text source, decomposeOnto_eq equivalence text source⟩,
    ⟨composeInPlace_eq text source, composeOnto_eq text source⟩,
    fun form => ⟨normalizeInPlace_eq form text source, normalizeOnto_eq form text source⟩,
    fun stream => ⟨stream.pushOnto_eq_append table text source,
      stream.flushOnto_eq_append table text⟩⟩

-- A vowel does not join a consonant that was in the text before, even with nothing between them.
example : (PropertyTable.mk .unicode #[] #[] #[] #[] #[] 0).composeInPlace [0x1100] [0x1161]
    = [0x1100, 0x1161] := by decide

end UniText
