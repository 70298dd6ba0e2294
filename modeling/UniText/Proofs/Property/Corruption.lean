import UniText.Proofs.Property.Checksum
import UniText.Proofs.Property.Direct

/-! Corruption of stored data is detected: in a short window of the body, and at its end. -/

namespace UniText

/-- A number is read from the bytes that it takes, whatever follows them. -/
theorem numberAt_append_left {front : List UInt8} {offset width : Nat}
    (within : offset + width ≤ front.length) (after : List UInt8) :
    numberAt (front ++ after) offset width = numberAt front offset width := by
  -- The bytes that spell the number are all in front.
  have enough : width ≤ (front.drop offset).length := by
    rw [List.length_drop]
    omega
  rw [numberAt, numberAt, List.drop_append_of_le_length (by omega),
    List.take_append_of_le_length enough]

namespace Header

/-- A header is read from the bytes that it takes, whatever follows them. -/
theorem read_append {front : List UInt8} (whole : front.length = width) (body : List UInt8) :
    read (front ++ body) = read front := by
  have enough : front.length = 48 := whole
  -- Every field ends within these bytes.
  simp [read, numberAt_append_left, List.drop_append, List.take_append, enough]

/-- A body that is refused is refused as corrupt. -/
theorem checkBody_eq_error {header : Header} {body : List UInt8}
    (other : header.checkBody body ≠ .ok ()) :
    ∃ message, header.checkBody body = .error (.corrupt message) := by
  -- The length is compared first, and the checksum of a body of that length afterwards.
  by_cases length : header.bodyLength.toNat = body.length
  · have differs : header.checksum ≠ Crc32.checksum body := by
      intro same
      exact other (checkBody_eq_ok_iff.mpr ⟨length, same⟩)
    simp only [checkBody, require, length, differs, decide_true, decide_false, if_true]
    exact ⟨_, rfl⟩
  · simp only [checkBody, require, length, decide_false]
    exact ⟨_, rfl⟩

end Header

namespace PropertyTable

/-- Loading refuses some data, since its format is invalid. -/
def Corrupt (bytes : List UInt8) : Prop :=
  ∃ error, load bytes = .error error ∧ error.status = .ofFault .invalidFormat

/-- Data that is shorter than a header is corrupt. -/
theorem corrupt_of_short {bytes : List UInt8} (short : bytes.length < Header.width) :
    Corrupt bytes := by
  -- The length is the first thing that is checked.
  simp only [Corrupt, load, require, Nat.not_le.mpr short, decide_false]
  exact ⟨_, rfl, rfl⟩

variable {bytes : List UInt8} {table : PropertyTable}

/-- With the header of data that is loaded, a body of another length or checksum is corrupt. -/
theorem corrupt_of_body (loaded : load bytes = .ok table) {body : List UInt8}
    (other : body.length ≠ (bytes.drop Header.width).length ∨
      Crc32.checksum body ≠ Crc32.checksum (bytes.drop Header.width)) :
    Corrupt (bytes.take Header.width ++ body) := by
  obtain ⟨long, kind, passed, -⟩ := (load_eq_ok_iff.mp loaded).1
  have whole : (bytes.take Header.width).length = Header.width := List.length_take_of_le long
  -- The header says the length and the checksum of the body that it was stored with.
  have header : Header.read (bytes.take Header.width ++ body) = Header.read bytes := by
    rw [Header.read_append whole, ← Header.read_append whole (bytes.drop Header.width),
      List.take_append_drop]
  obtain ⟨length, checksum⟩ := Header.checkBody_eq_ok_iff.mp passed
  have refused : (Header.read bytes).checkBody body ≠ .ok () := by
    rw [Ne, Header.checkBody_eq_ok_iff, length, checksum]
    intro same
    rcases other with length | checksum
    · exact length same.1.symm
    · exact checksum same.2.symm
  obtain ⟨message, refused⟩ := Header.checkBody_eq_error refused
  have enough : Header.width ≤ (bytes.take Header.width ++ body).length := by
    rw [List.length_append, whole]
    exact Nat.le_add_right ..
  refine ⟨.corrupt message, ?_, rfl⟩
  rw [load, require_eq_ok_iff.mpr (decide_eq_true enough), header, List.drop_left' whole]
  simp only [Bind.bind, Except.bind, kind, refused]

/-- A table with an entry for each code point is stored with that of the first block in front. -/
theorem exists_bytes_direct (index : CodePoint → UInt16) (records : List Record)
    (mapping : List CodePoint) (compositions : List Composition) :
    ∃ rest, (Sections.direct index records mapping compositions).bytes = 0 :: 0 :: rest := by
  -- The first block of code points is the first one that is stored.
  have first : numberBytes 2 (0 : UInt16).toNat = [0, 0] := by decide
  obtain ⟨blocks, several⟩ : ∃ blocks, blockCount = blocks + 1 := ⟨17407, rfl⟩
  obtain ⟨others, stage1⟩ : ∃ others,
      (Sections.direct index records mapping compositions).stage1 = 0 :: others := by
    rw [Sections.direct, several, List.range_succ_eq_map]
    exact ⟨_, rfl⟩
  rw [Sections.bytes, stage1, List.flatMap_cons, first]
  simp only [List.cons_append]
  exact ⟨_, rfl⟩

/-- Whatever is done to stored data in one short stretch of its body, or at its end, is detected.

In the place of up to four bytes in a row there may be any others, of which one at least differs;
any number of bytes may be missing at the end, or follow it. -/
theorem corrupt_of_altered (loaded : load bytes = .ok table) :
    (∀ offset window, Header.width ≤ offset → offset + window.length ≤ bytes.length →
      window.length ≤ 4 → window ≠ (bytes.drop offset).take window.length →
      Corrupt (bytes.take offset ++ window ++ bytes.drop (offset + window.length))) ∧
    (∀ count < bytes.length, Corrupt (bytes.take count)) ∧
    ∀ added ≠ [], Corrupt (bytes ++ added) := by
  obtain ⟨long, -⟩ := (load_eq_ok_iff.mp loaded).1
  refine ⟨?_, ?_, ?_⟩
  · intro offset window behind within short differs
    obtain ⟨before, rfl⟩ := Nat.exists_eq_add_of_le behind
    -- The body is what is before the window, what is in it, and what is behind it.
    have altered : bytes.take (Header.width + before) ++ window
          ++ bytes.drop (Header.width + before + window.length)
        = bytes.take Header.width ++ ((bytes.drop Header.width).take before ++ window
          ++ (bytes.drop Header.width).drop (before + window.length)) := by
      rw [List.take_add, List.drop_drop, Nat.add_assoc, List.append_assoc, List.append_assoc,
        List.append_assoc]
    have body : bytes.drop Header.width = (bytes.drop Header.width).take before
        ++ (bytes.drop (Header.width + before)).take window.length
          ++ (bytes.drop Header.width).drop (before + window.length) := by
      rw [← List.drop_drop, ← List.take_add, List.take_append_drop]
    have size : window.length
        = ((bytes.drop (Header.width + before)).take window.length).length := by
      rw [List.length_take, List.length_drop]
      omega
    rw [altered]
    apply corrupt_of_body loaded
    right
    conv => rhs; rw [body]
    exact Crc32.checksum_ne (size ▸ short) size differs _ _
  · intro count less
    by_cases short : count < Header.width
    · exact corrupt_of_short (by rw [List.length_take]; omega)
    · obtain ⟨kept, rfl⟩ := Nat.exists_eq_add_of_le (Nat.not_lt.mp short)
      rw [List.take_add]
      -- The body has become shorter.
      apply corrupt_of_body loaded
      left
      rw [List.length_take, List.length_drop]
      omega
  · intro added some_
    have longer := List.length_pos_iff.mpr some_
    have altered : bytes ++ added
        = bytes.take Header.width ++ (bytes.drop Header.width ++ added) := by
      rw [← List.append_assoc, List.take_append_drop]
    rw [altered]
    -- The body has become longer.
    apply corrupt_of_body loaded
    left
    rw [List.length_append]
    omega

/-- Two bytes of a stored table are altered, or its last byte is missing, or it is there twice. -/
theorem corrupt_of_altered_accents : load Accents.bytes = .ok Accents.table ∧
    Corrupt (Accents.bytes.take Header.width ++ [0xFF, 0]
      ++ Accents.bytes.drop (Header.width + 2)) ∧
    Corrupt (Accents.bytes.take (Accents.bytes.length - 1)) ∧
    Corrupt (Accents.bytes ++ Accents.bytes) := by
  -- Its number, zero, is the front of the body.
  obtain ⟨replaced, dropped, appended⟩ := corrupt_of_altered Accents.load_bytes
  obtain ⟨rest, body⟩ : ∃ rest, Accents.bytes.drop Header.width = 0 :: 0 :: rest := by
    have wide : (Accents.sections.header .unicode).bytes.length = Header.width :=
      Header.length_bytes rfl
    unfold Accents.bytes
    rw [Sections.store, List.drop_left' wide]
    exact exists_bytes_direct ..
  have length : Header.width + 2 ≤ Accents.bytes.length := by
    have size := congrArg List.length body
    rw [List.length_drop, List.length_cons, List.length_cons] at size
    omega
  refine ⟨Accents.load_bytes, ?_, ?_, ?_⟩
  · exact replaced Header.width [0xFF, 0] (Nat.le_refl _) length (by decide) (by simp [body])
  · exact dropped _ (by omega)
  · exact appended _ (List.length_pos_iff.mp (by omega))

end PropertyTable

end UniText
