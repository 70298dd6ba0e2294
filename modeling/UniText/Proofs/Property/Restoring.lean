import UniText.Proofs.Charset.Reading
import UniText.Proofs.Property.Storing

/-! Property data that was read: writing it again gives back the bytes that it was read from. -/

namespace UniText

section Numbers

variable {bytes : List UInt8} {offset : Nat}

/-- A number fits the width that it was read with, and is written back to its place. -/
theorem numberBytes_numberAt {width : Nat} (within : offset + width ≤ bytes.length) :
    numberAt bytes offset width < Endian.capacity width ∧
      numberBytes width (numberAt bytes offset width) = (bytes.drop offset).take width := by
  -- The window lies inside the bytes, so it is `width` long and reads back exactly.
  have whole : ((bytes.drop offset).take width).length = width := by
    rw [List.length_take, List.length_drop]
    omega
  have fits := Endian.little.read_lt ((bytes.drop offset).take width)
  have back := Endian.little.write_read ((bytes.drop offset).take width)
  rw [whole] at fits back
  exact ⟨fits, back⟩

/-- A number of two bytes is written back. -/
theorem numberBytes_two (within : offset + 2 ≤ bytes.length) :
    numberBytes 2 (UInt16.ofNat (numberAt bytes offset 2)).toNat = (bytes.drop offset).take 2 := by
  -- Two bytes hold at most a 16-bit number: the cast loses nothing.
  obtain ⟨fits, back⟩ := numberBytes_numberAt within
  rwa [UInt16.toNat_ofNat', Nat.mod_eq_of_lt (show _ < 2 ^ 16 from fits)]

/-- A number of four bytes is written back. -/
theorem numberBytes_four (within : offset + 4 ≤ bytes.length) :
    numberBytes 4 (UInt32.ofNat (numberAt bytes offset 4)).toNat = (bytes.drop offset).take 4 := by
  -- Four bytes hold at most a 32-bit number: the cast loses nothing.
  obtain ⟨fits, back⟩ := numberBytes_numberAt within
  rwa [UInt32.toNat_ofNat', Nat.mod_eq_of_lt (show _ < 2 ^ 32 from fits)]

end Numbers

/-- Four components are those of the version that they make. -/
theorem Version.parts_ofParts {listed : List UInt8} (four : listed.length = 4) :
    (ofParts listed).parts = listed := by
  match listed, four with
  | [_, _, _, _], _ => rfl

/-- A stored record is written back. -/
theorem StoredRecord.bytes_read {bytes : List UInt8} (whole : bytes.length = width) :
    (read bytes).bytes = bytes := by
  rw [width] at whole
  have one (offset : Nat) (within : offset + 1 ≤ bytes.length) :
      [UInt8.ofNat (numberAt bytes offset 1)] = (bytes.drop offset).take 1 :=
    (numberBytes_numberAt within).2
  -- The first four fields are single bytes.
  have front : [(read bytes).combiningClass, (read bytes).flags, (read bytes).kind,
      (read bytes).mappingLength] = bytes.take 4 := by
    calc [(read bytes).combiningClass, (read bytes).flags, (read bytes).kind,
          (read bytes).mappingLength]
        = [UInt8.ofNat (numberAt bytes 0 1)] ++ [UInt8.ofNat (numberAt bytes 1 1)]
            ++ [UInt8.ofNat (numberAt bytes 2 1)] ++ [UInt8.ofNat (numberAt bytes 3 1)] := rfl
      _ = bytes.take 4 := by
        rw [one 0 (by omega), one 1 (by omega), one 2 (by omega), one 3 (by omega)]
        simp only [List.drop_zero, ← List.take_add, Nat.reduceAdd]
  rw [StoredRecord.bytes, front]
  simp only [read]
  rw [numberBytes_two (by omega), numberBytes_two (by omega)]
  -- The other two numbers stand behind them, up to the end.
  simp only [← List.take_add, Nat.reduceAdd]
  exact List.take_of_length_le (by omega)

/-- A composition is written back. -/
theorem Composition.bytes_read {bytes : List UInt8} (whole : bytes.length = width) :
    (read bytes).bytes = bytes := by
  -- The three fields are consecutive four-byte windows that cover the twelve bytes.
  rw [width] at whole
  rw [Composition.bytes, read, numberBytes_four (by omega), numberBytes_four (by omega),
    numberBytes_four (by omega), List.drop_zero, ← List.take_add, ← List.take_add]
  exact List.take_of_length_le (by omega)

/-- A header is written back, to the front of the bytes that it was read from. -/
theorem Header.bytes_read {bytes : List UInt8} (enough : width ≤ bytes.length) :
    (read bytes).bytes = bytes.take width := by
  rw [width] at enough
  have parts : (read bytes).version.parts = (bytes.drop 8).take 4 := by
    refine Version.parts_ofParts ?_
    rw [List.length_take, List.length_drop]
    omega
  rw [Header.bytes, parts]
  simp only [read]
  rw [numberBytes_two (by omega), numberBytes_two (by omega)]
  iterate 9 rw [numberBytes_four (by omega)]
  -- Each field begins where the ones before it end.
  simp only [← List.take_add, Nat.reduceAdd, width]

/-- As many pieces are cut off as are asked for. -/
@[simp] theorem length_pieces (width count : Nat) (bytes : List UInt8) :
    (pieces width count bytes).length = count := by
  -- One piece a step, also where the bytes have run out.
  induction count generalizing bytes with
  | zero => rfl
  | succ count ih => rw [pieces, List.length_cons, ih]

/-- Pieces that are written back one by one are written back together. -/
theorem flatMap_pieces {α : Type} {width : Nat} {read : List UInt8 → α} {write : α → List UInt8}
    (back : ∀ piece : List UInt8, piece.length = width → write (read piece) = piece)
    {count : Nat} {bytes : List UInt8} (enough : count * width ≤ bytes.length) :
    ((pieces width count bytes).map read).flatMap write = bytes.take (count * width) := by
  induction count generalizing bytes with
  | zero => simp [pieces]
  | succ count ih =>
    rw [Nat.succ_mul] at enough
    -- The first piece is whole, and so are those behind it.
    have first : (bytes.take width).length = width := List.length_take_of_le (by omega)
    have rest : count * width ≤ (bytes.drop width).length := by
      rw [List.length_drop]
      omega
    rw [pieces, List.map_cons, List.flatMap_cons, back _ first, ih rest, ← List.take_add,
      Nat.succ_mul, Nat.add_comm]

/-- Numbers are read from the pieces that bytes fall into. -/
theorem numbers_eq_map_pieces (width count : Nat) (bytes : List UInt8) :
    numbers width count bytes = (pieces width count bytes).map Endian.little.read := by
  -- Both recursions cut the same window at each step; one reads it at once.
  induction count generalizing bytes with
  | zero => rfl
  | succ count ih => rw [numbers, pieces, List.map_cons, ih]

/-- Numbers that are written back one by one are written back together. -/
theorem flatMap_numbers {α : Type} {width : Nat} {make : Nat → α} {write : α → List UInt8}
    (back : ∀ bytes : List UInt8, 0 + width ≤ bytes.length →
      write (make (numberAt bytes 0 width)) = (bytes.drop 0).take width)
    {count : Nat} {bytes : List UInt8} (enough : count * width ≤ bytes.length) :
    ((numbers width count bytes).map make).flatMap write = bytes.take (count * width) := by
  rw [numbers_eq_map_pieces, List.map_map]
  refine flatMap_pieces (fun piece whole => ?_) enough
  -- The number of a piece is the one that stands at its front.
  have single := back piece (by omega)
  rwa [numberAt, List.drop_zero, List.take_of_length_le (by omega)] at single

/-- Numbers of two bytes are written back together. -/
theorem flatMap_numbers_two {count : Nat} {bytes : List UInt8}
    (enough : count * 2 ≤ bytes.length) :
    ((numbers 2 count bytes).map UInt16.ofNat).flatMap (fun entry => numberBytes 2 entry.toNat)
      = bytes.take (count * 2) :=
  flatMap_numbers (fun _ => numberBytes_two) enough

/-- Numbers of four bytes are written back together. -/
theorem flatMap_numbers_four {count : Nat} {bytes : List UInt8}
    (enough : count * 4 ≤ bytes.length) :
    ((numbers 4 count bytes).map UInt32.ofNat).flatMap (fun code => numberBytes 4 code.toNat)
      = bytes.take (count * 4) :=
  flatMap_numbers (fun _ => numberBytes_four) enough

/-- The sections of a body that they fill are written back to it. -/
theorem Sections.bytes_read {header : Header} {body : List UInt8}
    (filled : header.sectionsLength = body.length) : (read header body).bytes = body := by
  rw [Header.sectionsLength] at filled
  simp only [bytes, read, List.drop_drop]
  -- Each section takes what it needs from the front of what the ones before it have left.
  rw [flatMap_numbers_two (by omega), flatMap_numbers_two (by rw [List.length_drop]; omega),
    flatMap_pieces (fun _ => StoredRecord.bytes_read) (by rw [List.length_drop]; omega),
    flatMap_numbers_four (by rw [List.length_drop]; omega),
    flatMap_pieces (fun _ => Composition.bytes_read) (by rw [List.length_drop]; omega)]
  simp only [← List.take_add]
  exact List.take_of_length_le (by omega)

/-- A header that has passed its checks is the header of the sections that were read by it. -/
theorem Sections.headerWith_read {header : Header} {body : List UInt8}
    (kind : header.checkKind = .ok ()) (unaltered : header.checkBody body = .ok ())
    (counts : header.checkCounts = .ok ()) :
    (read header body).headerWith header.version header.formatMinor header.reserved = header := by
  obtain ⟨signed, format, -⟩ := Header.checkKind_eq_ok_iff.mp kind
  obtain ⟨length, checksum⟩ := Header.checkBody_eq_ok_iff.mp unaltered
  obtain ⟨⟨shift, -⟩, -, filled⟩ := Header.checkCounts_eq_ok_iff.mp counts
  have same : (read header body).bytes = body := bytes_read (filled.trans length)
  -- Every field but the ones passed over was compared with what the sections say.
  rw [headerWith, Sections.header, same, ← signed, ← format, ← checksum, ← length, ← shift]
  simp only [read, List.length_map, length_numbers, length_pieces, UInt32.ofNat_toNat]

/-- The flags that a byte holds are stored as that byte. -/
theorem Flags.toByte_of_ofByte? {byte : UInt8} {flags : Flags} (held : ofByte? byte = some flags) :
    flags.toByte = byte := by
  -- There are few enough bytes to look at each of them.
  have each : ∀ number < 256, (ofByte? (UInt8.ofNat number)).all
      (fun flags => flags.toByte = UInt8.ofNat number) = true := by
    decide +kernel
  simpa [held] using each byte.toNat byte.toNat_lt

/-- A byte holds flags unless its highest bit is set. -/
theorem Flags.exists_ofByte?_iff {byte : UInt8} :
    (∃ flags, ofByte? byte = some flags) ↔ byte.toNat ≤ 0x7F := by
  -- The guard of `ofByte?` is the bound: seven flags fill the bits below the highest.
  simp only [ofByte?]
  split
  · next small => exact ⟨fun _ => Nat.le_of_lt_succ small, fun _ => ⟨_, rfl⟩⟩
  · next large => simp; omega

/-- The kind that a byte stands for is stored as that byte. -/
theorem DecompositionKind.toByte_of_ofByte? {byte : UInt8} {kind : DecompositionKind}
    (held : ofByte? byte = some kind) : kind.toByte = byte := by
  -- A kind stands at one place of the list, so its place is the byte it was looked up at.
  have distinct : all.Nodup := by decide
  obtain ⟨within, rfl⟩ := List.getElem?_eq_some_iff.mp held
  rw [toByte, List.Nodup.idxOf_getElem distinct, UInt8.ofNat_toNat]

/-- A byte stands for a kind if it is one of the first eighteen numbers. -/
theorem DecompositionKind.exists_ofByte?_iff {byte : UInt8} :
    (∃ kind, ofByte? byte = some kind) ↔ byte.toNat ≤ 17 := by
  -- The lookup succeeds inside the list of the eighteen kinds and nowhere else.
  have count : all.length = 18 := rfl
  constructor
  · rintro ⟨kind, known⟩
    obtain ⟨within, -⟩ := List.getElem?_eq_some_iff.mp known
    omega
  · intro few
    exact ⟨_, List.getElem?_eq_getElem (by omega)⟩

/-- A stored record that was accepted is the stored form of the record. -/
theorem StoredRecord.eq_storedWith {mappingLength : Nat} {stored : StoredRecord} {record : Record}
    (accepted : stored.validate mappingLength = .ok record) :
    record.storedWith stored.reserved = stored := by
  -- Validation rewrites flags and kind only, and both give their byte back.
  obtain ⟨flags, kind, held, known, -, -, rfl⟩ := validate_eq_ok_iff.mp accepted
  rw [Record.storedWith, Record.stored]
  simp only [Flags.toByte_of_ofByte? held, DecompositionKind.toByte_of_ofByte? known]

/-- A stored record is that of some record exactly if its flags and its kind are known numbers. -/
theorem StoredRecord.exists_storedWith_iff {stored : StoredRecord} :
    (∃ record : Record, record.storedWith stored.reserved = stored) ↔
      stored.flags.toNat ≤ 0x7F ∧ stored.kind.toNat ≤ 17 := by
  -- Of the fields a record keeps, only flags and kind restrict the byte they come from.
  rw [← Flags.exists_ofByte?_iff, ← DecompositionKind.exists_ofByte?_iff]
  constructor
  · rintro ⟨record, same⟩
    rw [← same]
    exact ⟨⟨_, Flags.ofByte?_toByte record.flags⟩, _, DecompositionKind.ofByte?_toByte record.kind⟩
  · rintro ⟨⟨flags, held⟩, kind, known⟩
    refine ⟨⟨stored.combiningClass, flags, kind, stored.mappingLength, stored.mappingOffset⟩, ?_⟩
    simp only [Record.storedWith, Record.stored, Flags.toByte_of_ofByte? held,
      DecompositionKind.toByte_of_ofByte? known]

/-- Stored records that were accepted are the stored forms of the records, one by one. -/
theorem zipWith_storedWith_of_mapM_validate {mappingLength : Nat} {stored : List StoredRecord}
    {records : List Record}
    (accepted : stored.mapM (StoredRecord.validate mappingLength) = .ok records) :
    List.zipWith Record.storedWith records (stored.map StoredRecord.reserved) = stored := by
  -- Records and their images pair up one to one, so induction runs over both lists at once.
  rw [mapM_eq_ok_iff] at accepted
  induction stored generalizing records with
  | nil => simp
  | cons first stored ih =>
    cases records with
    | nil => simp at accepted
    | cons record records =>
      rw [List.map_cons, List.map_cons, List.cons.injEq] at accepted
      rw [List.map_cons, List.zipWith_cons_cons, StoredRecord.eq_storedWith accepted.1,
        ih accepted.2]

/-- The stored forms of records are accepted, if the mappings are within bounds and allowed. -/
theorem mapM_validate_zipWith_storedWith {mappingLength : Nat} {records : List Record}
    (mapped : ∀ record ∈ records,
      record.mappingOffset.toNat + record.mappingLength.toNat ≤ mappingLength ∧
        (record.mappingLength = 0 ↔ record.kind = .unmapped))
    {reserved : List UInt16} (each : reserved.length = records.length) :
    (List.zipWith Record.storedWith records reserved).mapM (StoredRecord.validate mappingLength)
      = .ok records := by
  rw [mapM_eq_ok_iff]
  -- A record is accepted whatever stands in its last field.
  induction records generalizing reserved with
  | nil => simp
  | cons record records ih =>
    obtain ⟨value, reserved, rfl⟩ := List.exists_cons_of_length_eq_add_one each
    obtain ⟨here, mapped⟩ := List.forall_mem_cons.mp mapped
    rw [List.zipWith_cons_cons, List.map_cons, List.map_cons, Record.validate_storedWith here,
      ih mapped (Nat.succ.inj each)]

end UniText
