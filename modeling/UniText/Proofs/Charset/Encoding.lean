import UniText.Charset.Text

/-! Encoding a text: what its parts are encoded to comes one after the other. -/

namespace UniText.Charset

variable {charset : Charset} {policy : ErrorPolicy}

/-- A text is encoded exactly when each of its code points is, and to their bytes in order. -/
theorem encodeFrom_eq_iff {index : Nat} {text : List CodePoint} {bytes : List UInt8} :
    charset.encodeFrom policy index text = ⟨bytes, none⟩ ↔
      ∃ pieces : List (List UInt8), text.map (charset.encodeUnder policy) = pieces.map .ok ∧
        bytes = pieces.flatten := by
  -- The index only tells where an error is, and there is none.
  induction text generalizing index bytes with
  | nil => simp [encodeFrom, Progress.done, eq_comm]
  | cons code text ih =>
    rw [encodeFrom]
    cases written : charset.encodeUnder policy code with
    | error fault =>
      -- The code point that is refused has no piece.
      simp only [Progress.stop, Progress.mk.injEq, reduceCtorEq, and_false, false_iff, not_exists]
      rintro pieces ⟨same, -⟩
      cases pieces with
      | nil => simp at same
      | cons piece pieces => simp [written] at same
    | ok piece =>
      constructor
      · intro encoded
        simp only [Progress.before, Progress.mk.injEq] at encoded
        obtain ⟨rfl, unfailing⟩ := encoded
        -- What follows has its own output and, like the whole, no error.
        have rest : charset.encodeFrom policy (index + 1) text
            = ⟨(charset.encodeFrom policy (index + 1) text).output, none⟩ := by
          rw [← unfailing]
        obtain ⟨pieces, same, joined⟩ := ih.mp rest
        exact ⟨piece :: pieces, by simp [written, same], by simp [joined]⟩
      · rintro ⟨pieces, same, rfl⟩
        cases pieces with
        | nil => simp at same
        | cons first pieces =>
          rw [List.map_cons, List.map_cons, List.cons.injEq, written, Except.ok.injEq] at same
          obtain ⟨rfl, same⟩ := same
          simp only [ih.mpr ⟨pieces, same, rfl⟩, Progress.before, List.flatten_cons]

/-- A text can be encoded exactly if each of its code points can. -/
theorem exists_encodeFrom_iff {index : Nat} {text : List CodePoint} :
    (∃ bytes, charset.encodeFrom policy index text = ⟨bytes, none⟩) ↔
      ∀ code ∈ text, ∃ piece, charset.encodeUnder policy code = .ok piece := by
  simp only [encodeFrom_eq_iff]
  constructor
  · rintro ⟨bytes, pieces, same, -⟩ code member
    have written : charset.encodeUnder policy code ∈ pieces.map .ok :=
      same ▸ List.mem_map_of_mem member
    obtain ⟨piece, -, written⟩ := List.mem_map.mp written
    exact ⟨piece, written.symm⟩
  · intro single
    -- The pieces of the code points are found one after the other.
    obtain ⟨pieces, same⟩ :
        ∃ pieces : List (List UInt8), text.map (charset.encodeUnder policy) = pieces.map .ok := by
      induction text with
      | nil => exact ⟨[], rfl⟩
      | cons code text ih =>
        obtain ⟨piece, written⟩ := single code (by simp)
        obtain ⟨pieces, same⟩ := ih fun other member => single other (by simp [member])
        exact ⟨piece :: pieces, by simp [written, same]⟩
    exact ⟨_, pieces, same, rfl⟩

/-- Two texts in a row are encoded exactly when both are, and to the bytes of both. -/
theorem encode_append_iff {first second : List CodePoint} {bytes : List UInt8} :
    charset.encode policy (first ++ second) = ⟨bytes, none⟩ ↔
      ∃ front back, charset.encode policy first = ⟨front, none⟩ ∧
        charset.encode policy second = ⟨back, none⟩ ∧ bytes = front ++ back := by
  simp only [encode, encodeFrom_eq_iff, List.map_append]
  -- The pieces of both texts are the pieces of one after those of the other.
  constructor
  · rintro ⟨pieces, same, rfl⟩
    obtain ⟨front, back, rfl, one, two⟩ := List.map_eq_append_iff.mp same.symm
    exact ⟨_, _, ⟨front, one.symm, rfl⟩, ⟨back, two.symm, rfl⟩, List.flatten_append⟩
  · rintro ⟨_, _, ⟨front, one, rfl⟩, ⟨back, two, rfl⟩, rfl⟩
    exact ⟨front ++ back, by rw [one, two, List.map_append], List.flatten_append.symm⟩

end UniText.Charset
