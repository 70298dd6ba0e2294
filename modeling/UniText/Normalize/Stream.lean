import UniText.Normalize.Boundary
import UniText.Text.Scalars

/-! Normalization of a text that arrives in chunks. -/

namespace UniText

/-- What a stream is doing. -/
inductive StreamState where
  /-- Nothing is held back. -/
  | idle
  /-- The last segment is held back, since the next chunk may add to it. -/
  | buffering
  /-- The segment held back is being given out; no call leaves a stream like this. -/
  | flushing
  deriving DecidableEq, Repr

/-- A normalization in progress, which holds back what follows the last boundary. -/
structure NormalizingStream where
  form : Form
  /-- The code points held back, not yet normalized. -/
  pending : List CodePoint
  state : StreamState
  deriving DecidableEq, Repr

namespace NormalizingStream

/-- A stream at its start. -/
def new (form : Form) : NormalizingStream := ⟨form, [], .idle⟩

/-- The stream at its start again, with nothing held back. -/
def reset (stream : NormalizingStream) : NormalizingStream := new stream.form

/-- The state that goes with what is held back. -/
def stateFor (pending : List CodePoint) : StreamState :=
  if pending.isEmpty then .idle else .buffering

/-- A stream is idle exactly when nothing is held back. -/
@[simp] theorem stateFor_eq_idle_iff {pending : List CodePoint} :
    stateFor pending = .idle ↔ pending = [] := by
  cases pending <;> simp [stateFor]

/-- Takes in a chunk, and appends to a text what is then final, answering how much that is.

A chunk with a value outside the code space is refused, and changes nothing. -/
def pushOnto (table : PropertyTable) (stream : NormalizingStream) (text chunk : List CodePoint) :
    Except Fault Nat × List CodePoint × NormalizingStream :=
  match PropertyTable.checkRange chunk with
  | .error fault => (.error fault, text, stream)
  | .ok () =>
    -- There is no boundary in what was held back, so only the chunk is searched.
    let held := stream.pending ++ chunk
    let boundary := table.lastBoundaryFrom stream.form stream.pending.length held
    -- What is before the last boundary is final, and the rest waits for the next chunk.
    let pending := held.drop boundary
    let extended :=
      if 0 < boundary then table.normalizeOnto stream.form text (held.take boundary) else text
    (.ok (extended.length - text.length), extended,
      { stream with pending, state := stateFor pending })

/-- Takes in a chunk, and gives out what is then final. -/
def push (table : PropertyTable) (stream : NormalizingStream) (chunk : List CodePoint) :
    Except Fault (List CodePoint) × NormalizingStream :=
  let (count, text, after) := stream.pushOnto table [] chunk
  (count.map fun _ => text, after)

/-- Ends the text, and appends to another what was held back. -/
def flushOnto (table : PropertyTable) (stream : NormalizingStream) (text : List CodePoint) :
    List CodePoint × NormalizingStream :=
  -- No more is to come, so that the last segment is complete.
  (table.normalizeOnto stream.form text stream.pending, stream.reset)

/-- Ends the text, and gives out what was held back. -/
def flush (table : PropertyTable) (stream : NormalizingStream) :
    List CodePoint × NormalizingStream :=
  stream.flushOnto table []

/-- Takes in a chunk of a string, all of whose characters lie in the code space. -/
def pushText (table : PropertyTable) (stream : NormalizingStream) (chunk : String) :
    String × NormalizingStream :=
  let (_, text, after) := stream.pushOnto table [] (codePoints chunk)
  (textOf text, after)

/-- Ends the text, and gives out what was held back as a string. -/
def flushText (table : PropertyTable) (stream : NormalizingStream) : String × NormalizingStream :=
  let (text, after) := stream.flush table
  (textOf text, after)

end NormalizingStream

end UniText
