import UniText.Proofs.Guarded.Basic
import UniText.Proofs.Property.Restoring

/-! Reading stored data from one place to the next: no read goes beyond its end. -/

namespace UniText

/-- Stored data, and the place that is read next. -/
structure Reader where
  data : List UInt8
  position : Nat

/-- A run that reads stored data. -/
abbrev Reading := StateT Reader Guarded

namespace Reading

open Guarded

variable {α : Type}

/-- Takes a number of bytes. -/
def take (count : Nat) : Reading (List UInt8) := do
  let reader ← get
  -- The sum is no trap, since a place beyond all places is beyond the data as well.
  match (checkedSum reader.position count).filter (· ≤ reader.data.length) with
  | none => throw (.corrupt "unexpected end of data")
  | some stop =>
    let bytes ← found (stretch? reader.data reader.position stop)
    set { reader with position := stop }
    return bytes

/-- Reads one byte. -/
def byte : Reading UInt8 := do
  -- No type says that as many bytes come as were asked for, so each of them is looked up.
  let bytes ← take 1
  found bytes[0]?

/-- Reads a number of two bytes. -/
def short : Reading UInt16 := do
  let bytes ← take 2
  return UInt16.ofNat (Endian.little.read [← found bytes[0]?, ← found bytes[1]?])

/-- Reads a number of four bytes. -/
def word : Reading UInt32 := do
  let bytes ← take 4
  return UInt32.ofNat (Endian.little.read
    [← found bytes[0]?, ← found bytes[1]?, ← found bytes[2]?, ← found bytes[3]?])

/-- Reads a number of things one after the other. -/
def many (read : Reading α) : (count : Nat) → Reading (List α)
  | 0 => return []
  | count + 1 => return (← read) :: (← many read count)

/-- Reads a header, of which each part is checked as soon as it is read. -/
def header : Reading Header := do
  let magic ← take 4
  check (magic = Header.signature) (.corrupt "not a normalization data blob (bad magic)")
  let formatMajor ← short
  let formatMinor ← short
  check (formatMajor = Header.supportedFormat) <| .incompatible <|
    s!"data format {formatMajor} is not supported (expected {Header.supportedFormat})"
  let parts ← take 4
  let version : Version :=
    ⟨← found parts[0]?, ← found parts[1]?, ← found parts[2]?, ← found parts[3]?⟩
  check (version.major = Version.unicode.major) <| .incompatible <|
    s!"data is for Unicode {version.text}, code expects Unicode {Version.unicode.text}"
  -- The rest of a header of another kind is never read.
  return { magic, formatMajor, formatMinor, version
           checksum := ← word
           bodyLength := ← word
           stage1Length := ← word
           stage2Length := ← word
           recordCount := ← word
           mappingLength := ← word
           compositionCount := ← word
           blockShift := ← word
           reserved := ← word }

/-- Reads a record, which must be valid among a given number of mapped code points. -/
def record (mappingLength : Nat) : Reading Record := do
  let combiningClass ← byte
  let flags ← known (Flags.ofByte? (← byte)) (.corrupt "record has unknown flag bits")
  let kind ← known (DecompositionKind.ofByte? (← byte))
    (.corrupt "record has an unknown decomposition type")
  let length ← byte
  let offset ← short
  let _reserved ← short
  -- Where the mapping stops is known before it is known whether there is so much of it.
  let stop ← sizeSum offset.toNat length.toNat
  check (stop ≤ mappingLength) (.corrupt "decomposition mapping out of range")
  check ((length = 0) == (kind = .unmapped))
    (.corrupt "decomposition type and mapping disagree")
  return ⟨combiningClass, flags, kind, length, offset⟩

/-- Reads a composition. -/
def composition : Reading Composition := do
  return { first := ← word, second := ← word, composite := ← word }

/-- Reads the sections of a body, by the counts of its header. -/
def table (header : Header) : Reading PropertyTable := do
  let stage1 ← many short header.stage1Length.toNat
  let stage2 ← many short header.stage2Length.toNat
  let records ← many (record header.mappingLength.toNat) header.recordCount.toNat
  let mapping ← many word header.mappingLength.toNat
  let compositions ← many composition header.compositionCount.toNat
  return { version := header.version
           stage1 := stage1.toArray
           stage2 := stage2.toArray
           records := records.toArray
           mapping := mapping.toArray
           compositions := compositions.toArray
           dataLength := (← get).data.length }

variable {data : List UInt8} {position : Nat}

/-- Bytes that are there are taken, and the place moves on behind them. -/
theorem run_take {count : Nat} (within : position + count ≤ data.length)
    (small : position + count < 2 ^ 64) : (take count).run ⟨data, position⟩
      = pure ((data.drop position).take count, ⟨data, position + count⟩) := by
  -- The end of what is taken is a number that fits, and it is not behind the data.
  simp [take, checkedSum_of_lt small, Option.filter, within, stretch?_of_le within]

/-- As many bytes are taken as are asked for. -/
theorem length_taken {count : Nat} (within : position + count ≤ data.length) :
    ((data.drop position).take count).length = count := by
  -- Nothing of what is taken lies behind the data.
  rw [List.length_take, List.length_drop]
  omega

/-- A run that reads nothing leaves the place alone. -/
theorem run_liftM (run : Guarded α) (reader : Reader) :
    (liftM run : Reading α).run reader = run >>= fun value => pure (value, reader) := rfl

/-- A byte that is there is read. -/
theorem run_byte (within : position + 1 ≤ data.length) (small : position + 1 < 2 ^ 64) :
    byte.run ⟨data, position⟩
      = pure (UInt8.ofNat (numberAt data position 1), ⟨data, position + 1⟩) := by
  -- What is taken is a single byte, which spells its own number.
  obtain ⟨first, taken⟩ := List.length_eq_one_iff.mp (length_taken within)
  rw [byte, StateT.run_bind, run_take within small, pure_bind, numberAt, taken]
  simp [Endian.read, Endian.ofLittle]

/-- A number of two bytes that is there is read. -/
theorem run_short (within : position + 2 ≤ data.length) (small : position + 2 < 2 ^ 64) :
    short.run ⟨data, position⟩
      = pure (UInt16.ofNat (numberAt data position 2), ⟨data, position + 2⟩) := by
  -- What is taken are two bytes, which spell the number.
  obtain ⟨first, second, taken⟩ := List.length_eq_two.mp (length_taken within)
  rw [short, StateT.run_bind, run_take within small, pure_bind, numberAt, taken]
  rfl

/-- A number of four bytes that is there is read. -/
theorem run_word (within : position + 4 ≤ data.length) (small : position + 4 < 2 ^ 64) :
    word.run ⟨data, position⟩
      = pure (UInt32.ofNat (numberAt data position 4), ⟨data, position + 4⟩) := by
  -- What is taken are four bytes, which spell the number.
  obtain ⟨first, second, third, fourth, taken⟩ := List.length_eq_four.mp (length_taken within)
  rw [word, StateT.run_bind, run_take within small, pure_bind, numberAt, taken]
  rfl

/-- The header that data begins with is read, unless it is of a wrong kind. -/
theorem run_header (enough : Header.width ≤ data.length) : header.run ⟨data, 0⟩
    = free (do
        (Header.read data).checkKind
        return (Header.read data, ⟨data, Header.width⟩)) := by
  rw [Header.width] at enough
  -- The version is the one part that is taken as four bytes at once.
  have four : ((data.drop 8).take 4).length = 4 := length_taken (by omega)
  obtain ⟨major, minor, patch, build, parts⟩ := List.length_eq_four.mp four
  simp (disch := omega) only [header, StateT.run_bind, run_take, run_short, run_word, run_liftM,
    StateT.run_pure, pure_bind, bind_assoc, parts, List.getElem?_cons_zero,
    List.getElem?_cons_succ, found_some, Nat.reduceAdd]
  -- Everything is read by now, and the checks between the reads are those of the kind.
  simp only [pure_eq_free, check_bind_free]
  have version : (Header.read data).version = ⟨major, minor, patch, build⟩ := by
    rw [Header.read, parts, Version.ofParts]
  simp only [Header.checkKind, version, bind_assoc]
  rw [Header.read, parts]
  rfl

/-- A number that lies within a stretch of the data is found in the stretch alone. -/
theorem numberAt_stretch {length offset width : Nat} (within : offset + width ≤ length) :
    numberAt ((data.drop position).take length) offset width
      = numberAt data (position + offset) width := by
  -- The bytes that spell the number lie within the stretch.
  rw [numberAt, numberAt, List.drop_take, List.take_take, List.drop_drop,
    Nat.min_eq_left (by omega)]

/-- A run reads what a number of bytes mean, wherever they begin. -/
def Reads (read : Reading α) (width : Nat) (meaning : List UInt8 → Except DataError α) : Prop :=
  ∀ data position, position + width ≤ data.length → position + width < 2 ^ 64 →
    read.run ⟨data, position⟩ = free (do
      let value ← meaning ((data.drop position).take width)
      return (value, ⟨data, position + width⟩))

/-- A number of two bytes is read. -/
theorem reads_short :
    Reads short 2 fun bytes => pure (UInt16.ofNat (Endian.little.read bytes)) :=
  fun _ _ within small => run_short within small

/-- A number of four bytes is read. -/
theorem reads_word :
    Reads word 4 fun bytes => pure (UInt32.ofNat (Endian.little.read bytes)) :=
  fun _ _ within small => run_word within small

/-- A record is read, unless it is not valid. -/
theorem reads_record (mappingLength : Nat) : Reads (record mappingLength) StoredRecord.width
    fun bytes => (StoredRecord.read bytes).validate mappingLength := by
  intro data position within small
  rw [StoredRecord.width] at within small ⊢
  simp (disch := omega) only [record, StateT.run_bind, run_byte, run_short, run_liftM,
    StateT.run_pure, pure_bind, bind_assoc, Nat.add_assoc, Nat.reduceAdd]
  simp (disch := omega) only [StoredRecord.read, numberAt_stretch]
  -- A mapping stops far below where a size could not tell its place.
  have small (offset : UInt16) (length : UInt8) : offset.toNat + length.toNat < 2 ^ 64 := by
    have offset := offset.toNat_lt
    have length := length.toNat_lt
    omega
  rw [StoredRecord.validate]
  -- Without flags or a kind the record is refused, and else by the same checks.
  cases Flags.ofByte? (UInt8.ofNat (numberAt data (position + 1) 1)) with
  | none => rfl
  | some flags =>
    cases DecompositionKind.ofByte? (UInt8.ofNat (numberAt data (position + 2) 1)) with
    | none => rfl
    | some kind =>
      simp only [known_some, sizeSum_of_lt (small _ _), pure_bind, pure_eq_free, check_bind_free,
        bind_assoc]
      rfl

/-- A composition is read. -/
theorem reads_composition :
    Reads composition Composition.width fun bytes => pure (Composition.read bytes) := by
  -- The three words follow each other without a gap.
  intro data position within small
  rw [Composition.width] at within small ⊢
  simp (disch := omega) only [composition, StateT.run_bind, run_word, StateT.run_pure, pure_bind,
    Nat.add_assoc, Nat.reduceAdd]
  simp (disch := omega) only [Composition.read, numberAt_stretch]
  rfl

/-- Things of equal width are read one after the other. -/
theorem Reads.run_many {read : Reading α} {width : Nat} {meaning : List UInt8 → Except DataError α}
    (reads : Reads read width meaning) {count : Nat}
    (within : position + count * width ≤ data.length)
    (small : position + count * width < 2 ^ 64) :
    (many read count).run ⟨data, position⟩ = free (do
      let values ← (pieces width count (data.drop position)).mapM meaning
      return (values, ⟨data, position + count * width⟩)) := by
  induction count generalizing position with
  | zero =>
    rw [Nat.zero_mul]
    rfl
  | succ count ih =>
    have total : position + (count + 1) * width = position + width + count * width := by
      rw [Nat.succ_mul]
      omega
    rw [total] at within small ⊢
    -- The first thing is read, and the others behind it.
    rw [many, StateT.run_bind, reads data position (by omega) (by omega), pieces, List.mapM_cons,
      bind_assoc, List.drop_drop]
    refine free_bind_return fun value _ => ?_
    rw [StateT.run_bind, ih within small, bind_assoc]
    exact free_bind_return fun values _ => rfl

/-- Things that every stretch of bytes means are read one after the other. -/
theorem Reads.run_many_pure {read : Reading α} {width : Nat} {make : List UInt8 → α}
    (reads : Reads read width fun bytes => pure (make bytes)) {count : Nat}
    (within : position + count * width ≤ data.length)
    (small : position + count * width < 2 ^ 64) :
    (many read count).run ⟨data, position⟩
      = pure ((pieces width count (data.drop position)).map make,
        ⟨data, position + count * width⟩) := by
  -- None of the pieces can be refused.
  rw [reads.run_many within small, List.mapM_pure]
  rfl

/-- The sections that data holds behind its header are read, unless a record is not valid. -/
theorem run_table {header : Header} (enough : Header.width ≤ data.length)
    (small : data.length < 2 ^ 64)
    (filled : header.sectionsLength = (data.drop Header.width).length) :
    (table header).run ⟨data, Header.width⟩ = free (do
      let sections := Sections.read header (data.drop Header.width)
      let records ← sections.records.mapM (StoredRecord.validate sections.mapping.length)
      return (sections.table header.version records data.length, ⟨data, data.length⟩)) := by
  rw [List.length_drop, Header.sectionsLength] at filled
  -- The sections fill the data, so the place behind the last one is its end.
  have last : Header.width + header.stage1Length.toNat * 2 + header.stage2Length.toNat * 2
      + header.recordCount.toNat * StoredRecord.width + header.mappingLength.toNat * 4
      + header.compositionCount.toNat * Composition.width = data.length := by
    omega
  -- Each section is read from where the one before it ends.
  simp (disch := omega) only [table, StateT.run_bind, reads_short.run_many_pure,
    (reads_record _).run_many, pure_bind, Sections.read, List.drop_drop, numbers_eq_map_pieces,
    List.map_map, List.length_map, length_pieces, List.mapM_map]
  refine free_bind_return fun records _ => ?_
  simp (disch := omega) only [reads_word.run_many_pure, reads_composition.run_many_pure,
    pure_bind, last]
  rfl

end Reading
end UniText
