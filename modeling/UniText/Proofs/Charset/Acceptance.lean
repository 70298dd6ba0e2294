import UniText.Proofs.Charset.Validity

/-! Acceptance: valid bytes are just those that strict decoding takes in to the end. -/

namespace UniText

namespace Utf8

/-- A byte that begins a row is of ASCII, or is a lead with the row of its trail bytes. -/
theorem tail_of_row {row : List (UInt8 × UInt8)} {lead : UInt8} (member : row ∈ wellFormedRows)
    (begins : (row.head?.any fun range => range.1 ≤ lead && lead ≤ range.2) = true) :
    lead.toNat ≤ 0x7F ∨ 2 ≤ sequenceLength lead ∧ 0xC2 ≤ lead.toNat ∧
      row.tail = firstTrail lead :: List.replicate (sequenceLength lead - 2) (0x80, 0xBF) := by
  obtain ⟨number, small, rfl⟩ : ∃ number < 256, UInt8.ofNat number = lead :=
    ⟨lead.toNat, lead.toNat_lt, UInt8.ofNat_toNat⟩
  -- There are few enough bytes and rows to look at every pair of them.
  revert number row
  decide +kernel

/-- Trail bytes that match their part of a row are read as a scalar value. -/
theorem exists_trails_of_matchRow? (code used : Nat) {due : Nat} {range : UInt8 × UInt8}
    {bytes rest : List UInt8}
    (matched : matchRow? (range :: List.replicate due (0x80, 0xBF)) bytes = some rest) :
    ∃ value length, trails true code used (due + 1) range bytes = ⟨.scalar value, length⟩ := by
  -- Only the first trail byte has a range of its own, so the range is not fixed.
  induction due generalizing code used range bytes with
  | zero =>
    cases bytes with
    | nil => simp [matchRow?] at matched
    | cons byte bytes =>
      simp only [matchRow?, Option.ite_none_right_eq_some, Bool.and_eq_true,
        decide_eq_true_eq] at matched
      obtain ⟨⟨low, high⟩, -⟩ := matched
      -- The byte that was due is there, and none is due after it.
      simp [trails, UInt8.not_lt.mpr low, UInt8.not_lt.mpr high]
  | succ due ih =>
    cases bytes with
    | nil => simp [matchRow?] at matched
    | cons byte bytes =>
      rw [matchRow?, Option.ite_none_right_eq_some, Bool.and_eq_true, decide_eq_true_eq,
        decide_eq_true_eq] at matched
      obtain ⟨⟨low, high⟩, later⟩ := matched
      rw [trails, if_neg (by simp [UInt8.not_lt.mpr low, UInt8.not_lt.mpr high])]
      exact ih _ _ later

/-- Bytes that begin with a row of the table are read as a scalar value. -/
theorem exists_next_of_matchRow? {row : List (UInt8 × UInt8)} {lead : UInt8}
    {bytes rest : List UInt8} (member : row ∈ wellFormedRows)
    (matched : matchRow? row (lead :: bytes) = some rest) :
    ∃ value length, next (lead :: bytes) true = ⟨.scalar value, length⟩ := by
  obtain ⟨range, isHead, low, high⟩ := exists_head_of_matchRow? member matched
  obtain ⟨ranges, rfl⟩ := List.head?_eq_some_iff.mp isHead
  have begins : (range.1 ≤ lead && lead ≤ range.2) = true := by simp [low, high]
  rcases tail_of_row member ((Option.any_some ..).trans begins) with ascii | ⟨long, least, tail⟩
  · exact ⟨_, _, next_ascii ascii bytes⟩
  · rw [List.tail_cons] at tail
    subst tail
    -- What the row has behind the lead is what the lead is waiting for.
    rw [matchRow?, Option.ite_none_right_eq_some] at matched
    have later : sequenceLength lead = sequenceLength lead - 2 + 2 := by omega
    rw [next_of_lead later least]
    exact exists_trails_of_matchRow? _ _ matched.2

/-- Bytes that do not begin with a scalar value are not well-formed. -/
theorem wellFormed_of_not_scalar {bytes : List UInt8} (nonempty : bytes ≠ [])
    (other : ∀ value length, next bytes true ≠ ⟨.scalar value, length⟩) :
    wellFormed bytes = false := by
  obtain ⟨lead, bytes, rfl⟩ := List.exists_cons_of_ne_nil nonempty
  rw [wellFormed, if_neg (by simp)]
  split
  · next rest found =>
    -- A row that matched would make the bytes begin with a scalar value.
    obtain ⟨row, member, matched⟩ := List.exists_of_findSome?_eq_some found
    obtain ⟨value, length, read⟩ := exists_next_of_matchRow? member matched
    exact absurd read (other value length)
  · rfl

end Utf8

namespace Charset

variable {charset : Charset}

/-- Bytes begin with one character after the other, up to their end or to something else. -/
theorem character_induction (charset : Charset) {motive : List UInt8 → Prop}
    (ended : motive [])
    (stopped : ∀ bytes, bytes ≠ [] →
      (∀ code length, charset.next bytes true ≠ ⟨.scalar code, length⟩) → motive bytes)
    (character : ∀ code piece rest, charset.encodeUnder .strict code = .ok piece →
      motive rest → motive (piece ++ rest))
    (bytes : List UInt8) : motive bytes := by
  induction size : bytes.length using Nat.strongRecOn generalizing bytes with
  | ind _ ih =>
    by_cases nonempty : bytes = []
    · exact nonempty ▸ ended
    by_cases scalar : ∃ code length, charset.next bytes true = ⟨.scalar code, length⟩
    · obtain ⟨code, length, read⟩ := scalar
      obtain ⟨piece, rest, written, rfl, -⟩ := next_eq_scalar_iff.mp read
      -- A character has bytes of its own, so that fewer are left behind it.
      have some_ := List.length_pos_iff.mpr (ne_nil_of_encodeUnder written)
      have fewer : rest.length < (piece ++ rest).length := by
        rw [List.length_append]
        omega
      exact character code piece rest written (ih _ (size ▸ fewer) rest rfl)
    · refine stopped bytes nonempty fun code length read => ?_
      exact scalar ⟨code, length, read⟩

/-- The walk over bytes ends where they do not begin with a scalar value. -/
theorem allScalars_of_not_scalar {bytes : List UInt8} (nonempty : bytes ≠ [])
    (other : ∀ code length, charset.next bytes true ≠ ⟨.scalar code, length⟩) :
    charset.allScalars bytes = false := by
  -- Whatever else stands at the front, the check ends there.
  obtain ⟨byte, bytes, rfl⟩ := List.exists_cons_of_ne_nil nonempty
  rw [allScalars]
  cases found : (charset.next (byte :: bytes) true).decoded with
  | scalar code => exact absurd (by rw [← found]) (other code _)
  | surrogate | illegal | truncated | incomplete => simp

/-- Strict decoding fails where the bytes do not begin with a scalar value. -/
theorem decodeFrom_of_not_scalar {offset : Nat} {bytes : List UInt8} (nonempty : bytes ≠ [])
    (other : ∀ code length, charset.next bytes true ≠ ⟨.scalar code, length⟩) :
    (charset.decodeFrom .strict offset bytes).error ≠ none := by
  rcases charset.decodeFrom_strict_cases offset bytes with
    ⟨empty, -⟩ | ⟨-, fault, -, refused⟩ | ⟨code, piece, rest, written, rfl, -⟩
  · exact absurd empty nonempty
  · simp [refused, Progress.stop]
  · -- What is written for a character would be read as a scalar value.
    exact absurd (next_eq_scalar_iff.mpr ⟨piece, rest, written, rfl, rfl⟩) (other _ _)

/-- A walk finds nothing but scalar values exactly where strict decoding does not fail. -/
theorem allScalars_iff_decodeFrom {offset : Nat} {bytes : List UInt8} :
    charset.allScalars bytes = true ↔
      (charset.decodeFrom .strict offset bytes).error = none := by
  -- The check and the decoder take the same characters and stop at the same place.
  induction bytes using charset.character_induction generalizing offset with
  | ended => simp [allScalars, decodeFrom, Progress.done]
  | stopped bytes nonempty other =>
    simp [allScalars_of_not_scalar nonempty other, decodeFrom_of_not_scalar nonempty other]
  | character code piece rest written ih =>
    rw [allScalars_append written, decodeFrom_strict_piece written, Progress.error_before, ih]

/-- The table of well-formed sequences describes what a walk over UTF-8 accepts. -/
theorem wellFormed_eq_allScalars (bytes : List UInt8) :
    Utf8.wellFormed bytes = utf8.allScalars bytes := by
  -- The table and the reader agree on every single character.
  induction bytes using utf8.character_induction with
  | ended => simp [Utf8.wellFormed, allScalars]
  | stopped bytes nonempty other =>
    rw [allScalars_of_not_scalar nonempty other, Utf8.wellFormed_of_not_scalar nonempty other]
  | character code piece rest written ih =>
    have encoded := (encodeUnder_strict_eq_ok_iff.mp written).2
    rw [Utf8.wellFormed_append encoded, allScalars_append written, ih]

/-- A walk over single bytes accepts those up to the last code point of the charset. -/
theorem allScalars_of_single (limit : Nat) (single : charset.next = SingleByte.next limit)
    (bytes : List UInt8) : charset.allScalars bytes = bytes.all fun byte => byte.toNat ≤ limit := by
  -- Each byte is a step of its own, and a character just up to the limit.
  induction bytes with
  | nil => simp [allScalars]
  | cons byte bytes ih =>
    rw [allScalars, single, List.all_cons]
    by_cases mapped : byte.toNat ≤ limit
    · simp [SingleByte.next, mapped, ih]
    · simp [SingleByte.next, mapped]

/-- Bytes are valid exactly if a walk over their characters finds nothing but scalar values.

This is so whether a charset describes its texts itself or leaves that to the walk, and valid bytes
are just those that are decoded strictly without an error. -/
theorem isValid_eq_allScalars (charset : Charset) (bytes : List UInt8) :
    charset.isValid bytes = charset.allScalars bytes ∧
      (charset.isValid bytes = true ↔ (charset.decode .strict bytes).error = none) := by
  have same : charset.isValid bytes = charset.allScalars bytes := by
    cases charset with
    | utf8 => exact wellFormed_eq_allScalars bytes
    | utf16 order | utf32 order => rfl
    | usAscii =>
      -- A byte below 80 is one of up to 7F.
      rw [allScalars_of_single 0x7F rfl, isValid]
      simp [UInt8.lt_iff_toNat_lt, Nat.lt_succ_iff]
    | latin1 =>
      -- There is no byte beyond FF.
      rw [allScalars_of_single 0xFF rfl, isValid]
      simp [Nat.le_of_lt_succ (UInt8.toNat_lt _)]
  exact ⟨same, same ▸ allScalars_iff_decodeFrom⟩

end Charset

end UniText
