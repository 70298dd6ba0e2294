import UniText.Property.Decomposition

/-! Canonical ordering: runs of marks are kept sorted by class while a text grows. -/

namespace UniText

/-- No code point before this one decomposes or has a class, so texts of them need no look-up. -/
def firstWithProperties : CodePoint := 0xA0

/-- A text that grows at its end, where the marks of the last run may still move. -/
structure OrderingBuffer where
  /-- The text, with its last code point first. -/
  reversed : List CodePoint
  /-- The number of code points at the end that belong to the open run. -/
  runLength : Nat
  /-- The greatest class in the open run, zero when there is none. -/
  lastClass : UInt8
  deriving DecidableEq, Repr

namespace OrderingBuffer

/-- A text to append to, none of which will be moved. -/
def onto (text : List CodePoint) : OrderingBuffer := ⟨text.reverse, 0, 0⟩

/-- The text so far. -/
def text (buffer : OrderingBuffer) : List CodePoint := buffer.reversed.reverse

/-- Appends a starter, which closes the run. -/
def appendStarter (buffer : OrderingBuffer) (code : CodePoint) : OrderingBuffer :=
  ⟨code :: buffer.reversed, 0, 0⟩

/-- Nothing has been appended to what was there. -/
@[simp] theorem text_onto (text : List CodePoint) : (onto text).text = text := by
  simp [onto, OrderingBuffer.text]

/-- A starter goes to the end, past all marks. -/
@[simp] theorem text_appendStarter (buffer : OrderingBuffer) (code : CodePoint) :
    (buffer.appendStarter code).text = buffer.text ++ [code] := by
  simp [appendStarter, OrderingBuffer.text]

/-- Puts a mark below the marks of a greater class, looking at a number of them at most. -/
def insertMark (classOf : CodePoint → UInt8) (mark : CodePoint) (markClass : UInt8) :
    (limit : Nat) → List CodePoint → List CodePoint
  | 0, reversed => mark :: reversed
  | _ + 1, [] => [mark]
  | limit + 1, code :: reversed =>
    -- Marks of an equal class keep the order in which they came.
    if markClass < classOf code then code :: insertMark classOf mark markClass limit reversed
    else mark :: code :: reversed

/-- Appends a code point at the place that its class gives it. -/
def append (table : PropertyTable) (buffer : OrderingBuffer) (code : CodePoint) :
    OrderingBuffer :=
  let codeClass := table.combiningClass code
  if codeClass = 0 then buffer.appendStarter code
  else if buffer.lastClass ≤ codeClass then
    -- Most marks come in order, and need no search for their place.
    ⟨code :: buffer.reversed, buffer.runLength + 1, codeClass⟩
  else
    -- The greatest class of the run is still that of its last mark.
    { buffer with
      reversed := insertMark table.combiningClass code codeClass buffer.runLength buffer.reversed
      runLength := buffer.runLength + 1 }

/-- Appends the full decomposition of a code point. -/
def appendDecomposed (table : PropertyTable) (equivalence : Equivalence) (buffer : OrderingBuffer)
    (code : CodePoint) : OrderingBuffer :=
  -- Each part goes to its own place, which may be before marks of other code points.
  if code < firstWithProperties then buffer.appendStarter code
  else (table.expand equivalence code).foldl (append table) buffer

end OrderingBuffer

namespace PropertyTable

/-- Appends code points to a text, in canonical order but not decomposed. -/
def reorderOnto (table : PropertyTable) (text source : List CodePoint) : List CodePoint :=
  (source.foldl (OrderingBuffer.append table) (.onto text)).text

/-- Appends the decomposition of a source to a text, in canonical order. -/
def decomposeOnto (table : PropertyTable) (equivalence : Equivalence)
    (text source : List CodePoint) : List CodePoint :=
  (source.foldl (OrderingBuffer.appendDecomposed table equivalence) (.onto text)).text

end PropertyTable

end UniText
