import UniText.Proofs.Charset.RoundTrip

/-! Validity: what is written for the code points of a text is well-formed. -/

namespace UniText

namespace Utf8

/-- No two rows of the table begin with the same byte. -/
theorem wellFormedRows_apart : ∀ one ∈ wellFormedRows, ∀ other ∈ wellFormedRows, one = other ∨
    (one.head?.all fun first => other.head?.all fun second =>
      first.2 < second.1 || second.2 < first.1) = true := by
  -- There are nine rows, and each has its own range of leads.
  decide +kernel

/-- A row that matches begins with a range in which the first byte lies. -/
theorem exists_head_of_matchRow? {row : List (UInt8 × UInt8)} {lead : UInt8}
    {bytes rest : List UInt8} (member : row ∈ wellFormedRows)
    (matched : matchRow? row (lead :: bytes) = some rest) :
    ∃ range, row.head? = some range ∧ range.1 ≤ lead ∧ lead ≤ range.2 := by
  -- A row has a range for the first byte, which is tested first.
  obtain ⟨range, ranges, rfl⟩ := List.exists_cons_of_length_pos (wellFormedRows_pos row member)
  rw [matchRow?, Option.ite_none_right_eq_some, Bool.and_eq_true, decide_eq_true_eq,
    decide_eq_true_eq] at matched
  exact ⟨range, rfl, matched.1⟩

/-- The row that matches some bytes is the only one. -/
theorem findSome?_matchRow? {row : List (UInt8 × UInt8)} {lead : UInt8} {bytes rest : List UInt8}
    (member : row ∈ wellFormedRows) (matched : matchRow? row (lead :: bytes) = some rest) :
    (wellFormedRows.findSome? fun row => matchRow? row (lead :: bytes)) = some rest := by
  cases found : wellFormedRows.findSome? fun row => matchRow? row (lead :: bytes) with
  | none =>
    rw [List.findSome?_eq_none_iff] at found
    rw [found row member] at matched
    exact absurd matched (by simp)
  | some left =>
    obtain ⟨other, listed, same⟩ := List.exists_of_findSome?_eq_some found
    -- Both rows begin with a range in which the first byte lies.
    obtain ⟨first, isFirst, low, high⟩ := exists_head_of_matchRow? member matched
    obtain ⟨second, isSecond, low', high'⟩ := exists_head_of_matchRow? listed same
    rcases wellFormedRows_apart row member other listed with rfl | apart
    · rw [← same, matched]
    · simp only [UInt8.le_iff_toNat_le] at low high low' high'
      simp only [isFirst, isSecond, Option.all_some, Bool.or_eq_true, decide_eq_true_eq,
        UInt8.lt_iff_toNat_lt] at apart
      omega

/-- Some bytes are well-formed if they are behind a row that matches. -/
theorem wellFormed_of_matchRow? {row : List (UInt8 × UInt8)} {lead : UInt8}
    {bytes rest : List UInt8} (member : row ∈ wellFormedRows)
    (matched : matchRow? row (lead :: bytes) = some rest) :
    wellFormed (lead :: bytes) = wellFormed rest := by
  -- No other row matches, and so the check goes on behind this one.
  have found := findSome?_matchRow? member matched
  rw [wellFormed, if_neg (by simp)]
  split
  · next left same =>
    rw [found, Option.some.injEq] at same
    rw [same]
  · next none =>
    rw [found] at none
    simp at none

/-- All trail bytes but the first may come from the whole range of them. -/
theorem matchRow?_trailsOf (count number : Nat) (rest : List UInt8) :
    matchRow? (List.replicate count (0x80, 0xBF)) (trailsOf count number ++ rest) = some rest := by
  -- Any trail lies in the widest range.
  induction count with
  | zero => rfl
  | succ count ih =>
    obtain ⟨low, high⟩ := within_trailOf (number / 0x40 ^ count)
    simp only [UInt8.toNat_ofNat] at low high
    simp [List.replicate_succ, trailsOf, matchRow?, UInt8.le_iff_toNat_le, low, high, ih]

/-- A lead has a row, with the range for the trail byte just behind it. -/
theorem exists_row_of_lead {lead : UInt8} {later : Nat}
    (long : sequenceLength lead = later + 2) (least : 0xC2 ≤ lead.toNat) :
    ∃ row ∈ wellFormedRows, (row.head?.any fun range => range.1 ≤ lead && lead ≤ range.2) = true ∧
      row.tail = firstTrail lead :: List.replicate later (0x80, 0xBF) := by
  obtain rfl : later = sequenceLength lead - 2 := by omega
  obtain ⟨number, small, rfl⟩ : ∃ number < 256, UInt8.ofNat number = lead :=
    ⟨lead.toNat, lead.toNat_lt, UInt8.ofNat_toNat⟩
  have several : 2 ≤ sequenceLength (UInt8.ofNat number) := by omega
  clear long
  -- There are few enough leads to look at each of them.
  revert number
  decide +kernel

/-- The bytes of a code point are well-formed, and so are those that follow them if any are. -/
theorem wellFormed_append {code : CodePoint} {piece : List UInt8}
    (written : encode code = .ok piece) (rest : List UInt8) :
    wellFormed (piece ++ rest) = wellFormed rest := by
  by_cases ascii : code.toNat ≤ 0x7F
  · rw [encode_ascii ascii, Except.ok.injEq] at written
    subst written
    have first : [(0x00, 0x7F)] ∈ wellFormedRows := by simp [wellFormedRows]
    have value : (UInt8.ofNat code.toNat).toNat ≤ 0x7F := by
      rw [UInt8.toNat_ofNat']
      omega
    refine wellFormed_of_matchRow? first ?_
    simpa [matchRow?, UInt8.le_iff_toNat_le] using value
  · obtain ⟨lead, later, spells⟩ := exists_spells (isScalar_of_encode written) (by omega)
    rw [encode_of_spells spells, Except.ok.injEq] at written
    subst written
    obtain ⟨long, least, -, within⟩ := spells
    obtain ⟨row, member, within', tail⟩ := exists_row_of_lead long least
    obtain ⟨range, isHead, bounds⟩ := (Option.any_eq_true _ _).mp within'
    obtain ⟨ranges, rfl⟩ := List.head?_eq_some_iff.mp isHead
    rw [List.tail_cons] at tail
    subst tail
    rw [Bool.and_eq_true, decide_eq_true_eq, decide_eq_true_eq] at bounds
    refine wellFormed_of_matchRow? member ?_
    -- The lead lies in the range of its row, and the first trail byte in that of the lead.
    simp only [Within, ← UInt8.le_iff_toNat_le] at within
    simp [matchRow?, trailsOf, bounds, within, matchRow?_trailsOf]

end Utf8

namespace Charset

variable {charset : Charset}

/-- A step that finds a scalar value leaves it to the rest whether all of them do. -/
theorem allScalars_append {code : CodePoint} {piece : List UInt8}
    (written : charset.encodeUnder .strict code = .ok piece) (rest : List UInt8) :
    charset.allScalars (piece ++ rest) = charset.allScalars rest := by
  -- The piece is read as its character, and the check goes on behind it.
  obtain ⟨byte, bytes, rfl⟩ := List.exists_cons_of_ne_nil (ne_nil_of_encodeUnder written)
  have read : charset.next (byte :: (bytes ++ rest)) true = ⟨.scalar code, bytes.length + 1⟩ :=
    next_eq_scalar_iff.mpr ⟨_, rest, written, rfl, rfl⟩
  rw [List.cons_append, allScalars]
  simp [read]

/-- What is written for a code point is valid in front of bytes that are. -/
theorem isValid_append {code : CodePoint} {piece rest : List UInt8}
    (written : charset.encodeUnder .strict code = .ok piece) (valid : charset.isValid rest = true) :
    charset.isValid (piece ++ rest) = true := by
  have encoded := (encodeUnder_strict_eq_ok_iff.mp written).2
  cases charset with
  | utf8 => exact (Utf8.wellFormed_append encoded rest).trans valid
  | utf16 order => exact (allScalars_append written rest).trans valid
  | utf32 order => exact (allScalars_append written rest).trans valid
  | usAscii =>
    -- The only byte of the code point has its value.
    rw [encodeChar, SingleByte.encode] at encoded
    split at encoded
    · next mapped =>
      rw [Except.ok.injEq] at encoded
      subst encoded
      simp only [isValid, List.all_append, List.all_cons, List.all_nil, Bool.and_eq_true,
        Bool.and_true, decide_eq_true_eq, UInt8.lt_iff_toNat_lt, UInt32.toNat_toUInt8,
        UInt8.toNat_ofNat] at valid ⊢
      exact ⟨by omega, valid⟩
    · simp at encoded
  | latin1 => rfl

/-- Pieces that are each written for some code point are valid in a row. -/
theorem isValid_flatten {pieces : List (List UInt8)}
    (written : ∀ piece ∈ pieces, ∃ code, charset.encodeUnder .strict code = .ok piece) :
    charset.isValid pieces.flatten = true := by
  induction pieces with
  | nil => cases charset <;> simp [isValid, Utf8.wellFormed, allScalars]
  | cons piece pieces ih =>
    -- The first piece stands in front of the others, which are valid by induction.
    obtain ⟨code, first⟩ := written piece (by simp)
    have others : ∀ piece ∈ pieces, ∃ code, charset.encodeUnder .strict code = .ok piece := by
      intro other member
      exact written other (by simp [member])
    exact isValid_append first (ih others)

end Charset

end UniText
