import UniText.Property.Composite

/-! Canonical composition: marks and letters join the last starter unless something is between. -/

namespace UniText

/-- A text that grows at its end, where the last starter may still take in what follows. -/
structure ComposingBuffer where
  /-- What stands before the last starter, or before anything was appended, in reverse. -/
  before : List CodePoint
  /-- The last starter, once there is one. -/
  starter : Option CodePoint
  /-- What was appended after the last starter, with its last code point first. -/
  after : List CodePoint
  /-- The class of the code point that was appended last. -/
  lastClass : UInt8
  deriving DecidableEq, Repr

namespace ComposingBuffer

/-- A text to append to, none of which takes part in composition. -/
def onto (text : List CodePoint) : ComposingBuffer := ⟨text.reverse, none, [], 0⟩

/-- The text so far, with its last code point first. -/
def reversed (buffer : ComposingBuffer) : List CodePoint :=
  buffer.after ++ (buffer.starter.toList ++ buffer.before)

/-- The text so far. -/
def text (buffer : ComposingBuffer) : List CodePoint := buffer.reversed.reverse

/-- Nothing has been appended to what was there. -/
@[simp] theorem text_onto (text : List CodePoint) : (onto text).text = text := by
  simp [onto, ComposingBuffer.text, reversed]

/-- The composite of the last starter and a code point that nothing keeps apart from it.

Between them there may be marks of lower classes only, and no starter. -/
def composite? (table : PropertyTable) (buffer : ComposingBuffer) (code : CodePoint)
    (codeClass : UInt8) : Option CodePoint :=
  match buffer.starter with
  | none => none
  | some starter =>
    -- Right behind the starter nothing is in the way, not even for another starter.
    if buffer.after.isEmpty || (buffer.lastClass ≠ 0 && buffer.lastClass < codeClass) then
      table.compose? starter code
    else none

/-- Appends a code point, or lets the last starter take it in. -/
def append (table : PropertyTable) (buffer : ComposingBuffer) (code : CodePoint) :
    ComposingBuffer :=
  let codeClass := table.combiningClass code
  match buffer.composite? table code codeClass with
  | some composite =>
    -- What is after the starter stays there, and so does the class it ends with.
    { buffer with starter := some composite }
  | none =>
    -- A starter begins a new stretch, to which the code points after it belong.
    if codeClass = 0 then ⟨buffer.reversed, some code, [], codeClass⟩
    else { buffer with after := code :: buffer.after, lastClass := codeClass }

/-- A code point that is not taken in goes to the end. -/
theorem text_append {table : PropertyTable} {buffer : ComposingBuffer} {code : CodePoint}
    (apart : buffer.composite? table code (table.combiningClass code) = none) :
    (buffer.append table code).text = buffer.text ++ [code] := by
  -- A starter opens a stretch of its own, and any other code point joins the one that is open.
  simp only [append, apart]
  split <;> simp [ComposingBuffer.text, reversed]

end ComposingBuffer

/-- Appends the composition of a source to a text. -/
def PropertyTable.composeOnto (table : PropertyTable) (text source : List CodePoint) :
    List CodePoint :=
  (source.foldl (ComposingBuffer.append table) (.onto text)).text

end UniText
