import UniText.Proofs.Normalize.Stream

/-! What a stream holds back: one segment, so that only new code points need to be searched. -/

namespace UniText

namespace PropertyTable

variable {table : PropertyTable} {form : Form}

/-- No code point of a stretch has a boundary before it. -/
def Unbroken (table : PropertyTable) (form : Form) (source : List CodePoint) : Prop :=
  ∀ code ∈ source, table.hasBoundaryBefore form code = false

/-- A search finds no place exactly in a stretch without a boundary. -/
theorem lastBoundaryIn_eq_none_iff (index : Nat) {source : List CodePoint} :
    table.lastBoundaryIn form index source = none ↔ table.Unbroken form source := by
  -- A boundary that comes later counts first, and the front only if there is none.
  induction source generalizing index with
  | nil => simp [lastBoundaryIn, Unbroken]
  | cons code rest ih =>
    rw [lastBoundaryIn, Unbroken, List.forall_mem_cons, ← Unbroken, ← ih (index + 1)]
    cases table.lastBoundaryIn form (index + 1) rest <;> simp

/-- A search through two stretches goes through the second one first. -/
theorem lastBoundaryIn_append (index : Nat) (front back : List CodePoint) :
    table.lastBoundaryIn form index (front ++ back)
      = (table.lastBoundaryIn form (index + front.length) back).or
        (table.lastBoundaryIn form index front) := by
  induction front generalizing index with
  | nil => simp [lastBoundaryIn]
  | cons code front ih =>
    have moved : index + (code :: front).length = index + 1 + front.length := by
      rw [List.length_cons]
      omega
    rw [List.cons_append, lastBoundaryIn, ih, moved, lastBoundaryIn]
    -- A boundary in the second stretch is the last one, and one in the rest of the first is next.
    cases table.lastBoundaryIn form (index + 1 + front.length) back with
    | some later => rfl
    | none => simp

/-- Behind the place that a search finds there is no boundary any more. -/
theorem unbroken_behind {index found : Nat} {source : List CodePoint}
    (searched : table.lastBoundaryIn form index source = some found) :
    table.Unbroken form (source.drop (found + 1 - index)) := by
  induction source generalizing index with
  | nil => simp [lastBoundaryIn] at searched
  | cons code rest ih =>
    rw [lastBoundaryIn] at searched
    split at searched
    · next later behind =>
      rw [Option.some.injEq] at searched
      subst searched
      -- A place in the rest is further on than the code point in front of it.
      have beyond := (boundary_of_lastBoundaryIn behind).1
      have further : later + 1 - index = later + 1 - (index + 1) + 1 := by omega
      rw [further, List.drop_succ_cons]
      exact ih behind
    · next none_ =>
      split at searched
      · rw [Option.some.injEq] at searched
        subst searched
        rw [Nat.add_sub_cancel_left, List.drop_one, List.tail_cons]
        exact (lastBoundaryIn_eq_none_iff _).mp none_
      · simp at searched

/-- What is behind the last boundary of a text has no boundary but at its start. -/
theorem unbroken_drop_lastBoundary (table : PropertyTable) (form : Form)
    (source : List CodePoint) :
    table.Unbroken form (source.drop (table.lastBoundary form source)).tail := by
  rw [lastBoundary, lastBoundaryFrom, Nat.max_self, List.tail_drop]
  cases searched : table.lastBoundaryIn form 1 (source.drop 1) with
  | none =>
    -- Without a boundary nothing is dropped, and the first code point is not searched.
    exact (lastBoundaryIn_eq_none_iff _).mp searched
  | some found =>
    have behind := unbroken_behind searched
    have beyond := (boundary_of_lastBoundaryIn searched).1
    rwa [List.drop_drop, Nat.add_sub_cancel' (by omega)] at behind

/-- Behind a stretch without a boundary only what is new needs to be searched. -/
theorem lastBoundaryFrom_append {held : List CodePoint} (unbroken : table.Unbroken form held.tail)
    (chunk : List CodePoint) :
    table.lastBoundaryFrom form held.length (held ++ chunk)
      = table.lastBoundary form (held ++ chunk) := by
  cases held with
  | nil =>
    -- The start of a text is never searched, so that both searches begin at the same place.
    rfl
  | cons code rest =>
    have nothing := (lastBoundaryIn_eq_none_iff 1).mpr unbroken
    rw [List.tail_cons] at nothing
    have first : max (code :: rest).length 1 = rest.length + 1 := by
      rw [List.length_cons]
      omega
    rw [lastBoundary, lastBoundaryFrom, lastBoundaryFrom, first, Nat.max_self, List.cons_append,
      List.drop_succ_cons, List.drop_succ_cons, List.drop_zero, List.drop_left,
      lastBoundaryIn_append, nothing, Option.or_none, Nat.add_comm 1]

end PropertyTable

namespace NormalizingStream

variable {table : PropertyTable}

/-- A call on a stream, with the text that it appends to. -/
inductive Call where
  | push (text chunk : List CodePoint)
  | flush (text : List CodePoint)
  | reset

/-- The stream after a call. -/
def afterCall (table : PropertyTable) (stream : NormalizingStream) : Call → NormalizingStream
  | .push text chunk => (stream.pushOnto table text chunk).2.2
  | .flush text => (stream.flushOnto table text).2
  | .reset => stream.reset

/-- The stream after calls that are made one after the other. -/
def afterCalls (table : PropertyTable) (stream : NormalizingStream) (calls : List Call) :
    NormalizingStream :=
  calls.foldl (afterCall table) stream

/-- What a stream of some form holds back is one segment, and its state says whether it is any. -/
structure HoldsSegment (table : PropertyTable) (form : Form) (stream : NormalizingStream) :
    Prop where
  form_eq : stream.form = form
  /-- The only boundary in what is held back is at its start. -/
  unbroken : table.Unbroken form stream.pending.tail
  state_eq : stream.state = stateFor stream.pending

/-- A stream at its start holds nothing back. -/
theorem holdsSegment_new (table : PropertyTable) (form : Form) :
    HoldsSegment table form (new form) where
  -- A stream begins with an empty segment.
  form_eq := rfl
  unbroken := by simp [PropertyTable.Unbroken, new]
  state_eq := rfl

/-- A chunk with a value outside the code space is refused, and changes nothing. -/
theorem pushOnto_of_beyond (table : PropertyTable) (stream : NormalizingStream)
    (text : List CodePoint) {chunk : List CodePoint}
    (beyond : ∃ code ∈ chunk, CodePoint.last < code) :
    stream.pushOnto table text chunk = (.error .illegalSequence, text, stream) := by
  -- The chunk is looked through before anything is done with it.
  have refused : PropertyTable.checkRange chunk = .error .illegalSequence :=
    if_pos (by simpa using beyond)
  rw [pushOnto, refused]

namespace HoldsSegment

variable {form : Form} {stream : NormalizingStream}

/-- The last boundary of what is held back and a chunk is found in the chunk. -/
theorem lastBoundaryFrom_eq (holds : HoldsSegment table form stream) (chunk : List CodePoint) :
    table.lastBoundaryFrom form stream.pending.length (stream.pending ++ chunk)
      = table.lastBoundary form (stream.pending ++ chunk) :=
  -- There is no boundary to be missed in what was held.
  PropertyTable.lastBoundaryFrom_append holds.unbroken chunk

/-- After a chunk what is behind the last boundary is held back. -/
theorem push (holds : HoldsSegment table form stream) (text chunk : List CodePoint) :
    HoldsSegment table form (stream.pushOnto table text chunk).2.2 := by
  unfold pushOnto
  split
  · -- A chunk that is refused leaves the stream as it was.
    exact holds
  · refine ⟨holds.form_eq, ?_, rfl⟩
    simp only [holds.form_eq, holds.lastBoundaryFrom_eq]
    exact table.unbroken_drop_lastBoundary form _

/-- A stream that holds a segment back does so after every call. -/
theorem afterCall (holds : HoldsSegment table form stream) (call : Call) :
    HoldsSegment table form (stream.afterCall table call) := by
  -- To flush a stream or to reset it leaves nothing held.
  have fresh : HoldsSegment table form stream.reset := by
    rw [reset, holds.form_eq]
    exact holdsSegment_new table form
  cases call with
  | push text chunk => exact holds.push text chunk
  | flush text => exact fresh
  | reset => exact fresh

/-- A stream that holds a segment back does so after all calls that follow. -/
theorem afterCalls (holds : HoldsSegment table form stream) (calls : List Call) :
    HoldsSegment table form (stream.afterCalls table calls) := by
  -- Each call leaves the stream to those after it.
  induction calls generalizing stream with
  | nil => exact holds
  | cons call calls ih => exact ih (holds.afterCall call)

end HoldsSegment

/-- After any calls a stream holds back a single segment, and tells by its state whether it does.

The last boundary with any chunk to come is then found by searching that chunk alone, and a chunk
with a value outside the code space is refused without any change. -/
theorem holdsSegment_afterCalls (table : PropertyTable) (form : Form) (calls : List Call) :
    let stream := (new form).afterCalls table calls
    (∀ (index : Nat) (code : CodePoint), 1 ≤ index → stream.pending[index]? = some code →
      table.hasBoundaryBefore form code = false) ∧
    (stream.state = if stream.pending = [] then .idle else .buffering) ∧
    stream.state ≠ .flushing ∧
    (∀ chunk, table.lastBoundaryFrom form stream.pending.length (stream.pending ++ chunk)
      = table.lastBoundary form (stream.pending ++ chunk)) ∧
    ∀ text chunk, (∃ code ∈ chunk, CodePoint.last < code) →
      stream.pushOnto table text chunk = (.error .illegalSequence, text, stream) := by
  have holds := (holdsSegment_new table form).afterCalls calls
  refine ⟨?_, ?_, ?_, holds.lastBoundaryFrom_eq, ?_⟩
  · intro index code positive there
    -- Behind the first place every place is one of the rest.
    obtain ⟨before, rfl⟩ := Nat.exists_eq_add_of_le' positive
    rw [← List.getElem?_tail] at there
    exact holds.unbroken code (List.mem_of_getElem? there)
  · rw [holds.state_eq, stateFor]
    simp only [List.isEmpty_iff]
  · rw [holds.state_eq, stateFor]
    split <;> simp
  · intro text chunk beyond
    exact pushOnto_of_beyond table _ text beyond

end NormalizingStream

end UniText
