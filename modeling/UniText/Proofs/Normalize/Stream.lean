import UniText.Normalize.Stream
import UniText.Proofs.Normalize.Boundary

/-! Normalizing a text in chunks gives what normalizing it in one piece gives. -/

namespace UniText

namespace PropertyTable

variable {table : PropertyTable} {form : Form}

/-- A place that a search finds is just before a code point with a boundary. -/
theorem boundary_of_lastBoundaryIn {index found : Nat} {source : List CodePoint}
    (searched : table.lastBoundaryIn form index source = some found) : index ≤ found ∧
      ∃ code, source[found - index]? = some code ∧ table.hasBoundaryBefore form code = true := by
  -- The search goes to the end of the text first, and counts the places as it goes.
  induction source generalizing index with
  | nil => simp [lastBoundaryIn] at searched
  | cons code rest ih =>
    rw [lastBoundaryIn] at searched
    split at searched
    · next later behind =>
      -- A boundary further on goes first.
      simp only [Option.some.injEq] at searched
      subst searched
      obtain ⟨beyond, other, there, boundary⟩ := ih behind
      have further : later - index = later - (index + 1) + 1 := by omega
      refine ⟨by omega, other, ?_, boundary⟩
      rw [further]
      exact there
    · split at searched
      · next boundary =>
        simp only [Option.some.injEq] at searched
        subst searched
        exact ⟨Nat.le_refl _, code, by simp, boundary⟩
      · simp at searched

/-- The place that is found is the start of a text, or just before a code point with a boundary. -/
theorem boundary_of_lastBoundaryFrom (table : PropertyTable) (form : Form) (index : Nat)
    (source : List CodePoint) : table.lastBoundaryFrom form index source = 0 ∨
      ∃ code, source[table.lastBoundaryFrom form index source]? = some code ∧
        table.hasBoundaryBefore form code = true := by
  unfold lastBoundaryFrom
  simp only
  cases searched : table.lastBoundaryIn form (max index 1) (source.drop (max index 1)) with
  | none => exact .inl rfl
  | some found =>
    obtain ⟨beyond, code, there, boundary⟩ := boundary_of_lastBoundaryIn searched
    -- The search begins behind the places that were looked at before.
    have place_ : max index 1 + (found - max index 1) = found := by omega
    rw [List.getElem?_drop, place_] at there
    exact .inr ⟨code, there, boundary⟩

/-- What stands before a boundary can be normalized before the rest is there. -/
theorem normalize_cut (checked : table.Checked)
    (keeps : form.isComposing = true → table.KeepsApart form) {source : List CodePoint} {cut : Nat}
    {code : CodePoint} (there : source[cut]? = some code)
    (boundary : table.hasBoundaryBefore form code = true) (rest : List CodePoint) :
    table.normalize form (source ++ rest)
      = table.normalize form (source.take cut)
        ++ table.normalize form (source.drop cut ++ rest) := by
  obtain ⟨within, rfl⟩ := List.getElem?_eq_some_iff.mp there
  -- The code point at the cut is the first one behind it.
  have split_ : source.drop cut = source[cut] :: source.drop (cut + 1) :=
    List.drop_eq_getElem_cons within
  have whole : source ++ rest = source.take cut ++ (source.drop cut ++ rest) := by
    rw [← List.append_assoc, List.take_append_drop]
  rw [whole, split_, List.cons_append]
  exact normalize_append_cons checked keeps boundary _ _

end PropertyTable

namespace NormalizingStream

variable {table : PropertyTable}

/-- Taking in a chunk leaves the normalization of the whole text as it was.

What is appended has the length that is answered. -/
theorem pushOnto_eq (checked : table.Checked) (stream : NormalizingStream)
    (keeps : stream.form.isComposing = true → table.KeepsApart stream.form)
    (text : List CodePoint) {chunk : List CodePoint}
    (inside : ∀ code ∈ chunk, code ≤ CodePoint.last) :
    ∃ count extended after, stream.pushOnto table text chunk = (.ok count, extended, after) ∧
      after.form = stream.form ∧ extended.length = text.length + count ∧
      ∀ rest, extended ++ table.normalize stream.form (after.pending ++ rest)
        = text ++ table.normalize stream.form (stream.pending ++ chunk ++ rest) := by
  unfold pushOnto
  rw [PropertyTable.checkRange_eq_ok_iff.mpr inside]
  refine ⟨_, _, _, rfl, rfl, ?_, ?_⟩
  · -- The text only grows.
    split
    · rw [PropertyTable.normalizeOnto_eq, List.length_append]
      omega
    · omega
  · intro rest
    rcases PropertyTable.boundary_of_lastBoundaryFrom table stream.form stream.pending.length
      (stream.pending ++ chunk) with start | ⟨code, there, boundary⟩
    · -- Without a boundary everything is held.
      simp [start]
    · rw [PropertyTable.normalize_cut checked keeps there boundary rest]
      split
      · rw [PropertyTable.normalizeOnto_eq, List.append_assoc]
      · next start =>
        -- A cut at the start leaves nothing to append.
        have nothing : table.normalize stream.form [] = [] := by
          unfold PropertyTable.normalize PropertyTable.normalizeOnto
          split <;> rfl
        simp [Nat.eq_zero_of_not_pos start, nothing]

/-- Takes in chunks one after the other, and appends to a text what is then final.

The first chunk that is refused ends this. -/
def pushAllOnto (table : PropertyTable) (stream : NormalizingStream) (text : List CodePoint) :
    List (List CodePoint) → Except Fault Nat × List CodePoint × NormalizingStream
  | [] => (.ok 0, text, stream)
  | chunk :: chunks =>
    match stream.pushOnto table text chunk with
    | (.error fault, extended, after) => (.error fault, extended, after)
    | (.ok count, extended, after) =>
      let (more, final, last) := after.pushAllOnto table extended chunks
      (more.map (count + ·), final, last)

/-- Taking in chunks leaves the normalization of the whole text as it was. -/
theorem pushAllOnto_eq (checked : table.Checked) (stream : NormalizingStream)
    (keeps : stream.form.isComposing = true → table.KeepsApart stream.form)
    (text : List CodePoint) {chunks : List (List CodePoint)}
    (inside : ∀ chunk ∈ chunks, ∀ code ∈ chunk, code ≤ CodePoint.last) :
    ∃ count extended after,
      stream.pushAllOnto table text chunks = (.ok count, extended, after) ∧
      after.form = stream.form ∧ extended.length = text.length + count ∧
      extended ++ table.normalize stream.form after.pending
        = text ++ table.normalize stream.form (stream.pending ++ chunks.flatten) := by
  -- One chunk keeps the normalization of the whole, so all of them do.
  induction chunks generalizing stream text with
  | nil => exact ⟨0, text, stream, rfl, rfl, rfl, by simp⟩
  | cons chunk chunks ih =>
    obtain ⟨first, between, middle, pushed, same, grown, whole⟩ :=
      pushOnto_eq checked stream keeps text (inside chunk (by simp))
    have later : ∀ other ∈ chunks, ∀ code ∈ other, code ≤ CodePoint.last := by
      intro other member
      exact inside other (by simp [member])
    obtain ⟨others, extended, after, rest, kept, longer, total⟩ :=
      ih middle (same ▸ keeps) between later
    refine ⟨first + others, extended, after, ?_, kept.trans same, by omega, ?_⟩
    · rw [pushAllOnto, pushed]
      simp only [rest]
      rfl
    · rw [same] at total
      rw [total, whole, List.flatten_cons, List.append_assoc]

/-- Normalizing a text in chunks does not depend on the chunks.

All chunks are taken in, and ending the stream makes the appended text the normalization of the
whole, with the stream at its start again. -/
theorem flushOnto_pushAllOnto {bytes : List UInt8} (loaded : PropertyTable.load bytes = .ok table)
    (form : Form) (keeps : form.isComposing = true → table.KeepsApart form)
    (chunks : List (List CodePoint))
    (inside : ∀ chunk ∈ chunks, ∀ code ∈ chunk, code ≤ CodePoint.last) (text : List CodePoint) :
    ∃ count extended held,
      (new form).pushAllOnto table text chunks = (.ok count, extended, held) ∧
      extended.length = text.length + count ∧
      held.flushOnto table extended = (text ++ table.normalize form chunks.flatten, new form) := by
  obtain ⟨count, extended, held, pushed, same, grown, whole⟩ :=
    pushAllOnto_eq (PropertyTable.checked_of_load loaded) (new form) keeps text inside
  refine ⟨count, extended, held, pushed, grown, ?_⟩
  -- Ending the stream normalizes what is still held, and then nothing is held any more.
  simp only [new, List.nil_append] at same whole
  rw [flushOnto, PropertyTable.normalizeOnto_eq, same, whole, reset, same]

/-- A letter takes in its accent from a later chunk, past a mark of a lower class. -/
theorem flushOnto_pushAllOnto_accents :
    ∃ count extended held,
      (new .nfc).pushAllOnto Accents.table [] [[0x65, 0x323], [], [0x301]]
        = (.ok count, extended, held) ∧
      held.flushOnto Accents.table extended = ([0xE9, 0x323], new .nfc) := by
  have inside : ∀ chunk ∈ [[0x65, 0x323], [], [0x301]], ∀ code ∈ chunk, code ≤ CodePoint.last := by
    simp [CodePoint.last]
  obtain ⟨count, extended, held, pushed, -, flushed⟩ := flushOnto_pushAllOnto Accents.load_bytes
    .nfc (fun _ => PropertyTable.keepsApart_accents) [[0x65, 0x323], [], [0x301]] inside []
  refine ⟨count, extended, held, pushed, flushed.trans ?_⟩
  -- The chunks together are the letter with its two marks.
  rw [List.nil_append, ← PropertyTable.normalize_accents]
  rfl

end NormalizingStream

end UniText
