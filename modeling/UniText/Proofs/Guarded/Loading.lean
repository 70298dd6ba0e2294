import UniText.Proofs.Guarded.Nesting

/-! Loading with every place, sum and call checked: what it may come to. -/

namespace UniText.PropertyTable

open Guarded

/-- Loads a table, with a trap wherever a place, a sum or a call is out of range.

Only for depths there is a choice: one that does not fit may be reduced instead. -/
def loadGuarded (overflow : Overflow) (bytes : List UInt8) : Guarded PropertyTable := do
  let table ← parse bytes
  -- No depth is known before the search.
  let _ ← table.seekDepths overflow 1 (table.records.size - 1)
    (Array.replicate table.records.size 0)
  return table

/-- Before the search no depth is known, and so none is wrong. -/
theorem exact_replicate (table : PropertyTable) (overflow : Overflow) :
    table.Exact overflow (Array.replicate table.records.size 0) where
  size := Array.size_replicate
  known _ index known := absurd known (not_knows_replicate _ index)

/-- The search in stored data does what the plain one does, unless a depth does not fit. -/
theorem loadGuarded_of_storedIn {bytes : List UInt8} {table : PropertyTable}
    (stored : table.StoredIn bytes) (overflow : Overflow) :
    (loadGuarded overflow bytes = free (load bytes) ∧ (overflow = .stops →
      load bytes = .ok table → ∀ index, table.NestsWithin 255 index)) ∨
    (overflow = .stops ∧ loadGuarded overflow bytes = stopped .depth ∧ table.Overflows) := by
  obtain ⟨several, -⟩ := Array.getElem?_eq_some_iff.mp stored.first
  -- The data is read without a trap, which leaves the search.
  have parsed : loadGuarded overflow bytes = do
      let _ ← table.seekDepths overflow 1 (table.records.size - 1)
        (Array.replicate table.records.size 0)
      return table := by
    rw [loadGuarded, parse_eq, stored_eq_ok_iff.mpr stored, ← pure_eq_free, pure_bind]
  have searched := follows_seekDepths stored (Nat.le_of_eq (Nat.add_sub_of_le several))
    (table.exact_replicate overflow)
  rw [load_of_storedIn stored, nestsWithinLimit, parsed]
  generalize table.depthsFrom 1 (table.records.size - 1)
    (Array.replicate table.records.size 0) = plain at searched ⊢
  generalize table.seekDepths overflow 1 (table.records.size - 1)
    (Array.replicate table.records.size 0) = guarded at searched ⊢
  cases searched with
  | found held =>
    refine .inl ⟨rfl, fun stops _ index => ?_⟩
    by_cases among : 0 < index ∧ index < table.records.size
    · exact held stops index among.1 (by omega)
    · -- Neither the first record nor one beyond the last has a mapping.
      exact nestsWithin_of_default (getD_of_not_among stored.first among)
  | refused => exact .inl ⟨rfl, fun _ impossible => by simp at impossible⟩
  | trapped stops overflows => exact .inr ⟨stops, rfl, overflows⟩

/-- Data that stands for no table is refused without a trap. -/
theorem loadGuarded_of_error {bytes : List UInt8} {error : DataError}
    (refused : stored bytes = .error error) (overflow : Overflow) :
    load bytes = .error error ∧ loadGuarded overflow bytes = free (load bytes) := by
  -- What is refused before the depths are looked at is refused by both.
  have same : load bytes = .error error := by
    rw [load_eq, refused]
    rfl
  refine ⟨same, ?_⟩
  rw [loadGuarded, parse_eq, refused, same]
  rfl

/-- Loading stays within every range and makes no more than nine calls within each other, unless a
depth does not fit into a byte.

If such a depth is reduced to a byte, there is no other trap. If it is a trap itself, then it is
met only above a record that is as deep as a byte can tell, and a table that is accepted without it
nests no deeper. Without a trap loading gives what `load` gives. -/
theorem loadGuarded_eq (bytes : List UInt8) :
    loadGuarded .wraps bytes = free (load bytes) ∧
    ((loadGuarded .stops bytes = free (load bytes) ∧
        ∀ table, load bytes = .ok table → ∀ index, table.NestsWithin 255 index) ∨
      (loadGuarded .stops bytes = stopped .depth ∧
        ∃ table : PropertyTable, table.StoredIn bytes ∧ table.Overflows)) := by
  cases outcome : stored bytes with
  | error error =>
    obtain ⟨refused, same⟩ := loadGuarded_of_error outcome .stops
    refine ⟨(loadGuarded_of_error outcome .wraps).2, .inl ⟨same, fun table loaded => ?_⟩⟩
    rw [refused] at loaded
    simp at loaded
  | ok table =>
    have stored := stored_eq_ok_iff.mp outcome
    constructor
    · -- Reduced depths stop nothing.
      exact (loadGuarded_of_storedIn stored .wraps).elim And.left fun impossible => by
        simp at impossible
    · rcases loadGuarded_of_storedIn stored .stops with ⟨same, fits⟩ | ⟨-, trapped, overflows⟩
      · refine .inl ⟨same, fun other loaded => ?_⟩
        -- The bytes stand for one table only.
        have unique := stored_eq_ok_iff.mpr (load_eq_ok_iff.mp loaded).1
        rw [outcome, Except.ok.injEq] at unique
        subst unique
        exact fits rfl loaded
      · exact .inr ⟨trapped, table, stored, overflows⟩

end UniText.PropertyTable

namespace UniText.Tower

open Guarded

/-- A number of letters that are mapped one to the next, from the foot to the top. -/
def entries (height : Nat) : List (CodePoint × Record) := Ladder.entries (List.range height)

/-- What the letters are mapped to: each to the one below it. -/
def mapping (height : Nat) : List CodePoint := (List.range height).map Ladder.letter

/-- The tower as it is stored. -/
def bytes (height : Nat) : List UInt8 := Listed.bytes (entries height) (mapping height) []

/-- The tower as a table. -/
def table (height : Nat) : PropertyTable := Listed.table (entries height) (mapping height) []

variable {height step : Nat}

/-- The letters above the foot follow each other, far below the syllables. -/
theorem toNat_letter (small : step ≤ 0x1000) :
    (Ladder.letter step).toNat = if step = 0 then 0x41 else 0xFFF + step := by
  -- The numbers of the steps are far below the end of the words.
  cases step with
  | zero => rfl
  | succ step =>
    rw [Ladder.letter, UInt32.toNat_ofNat', Nat.mod_eq_of_lt (by omega), if_neg (by omega)]
    omega

/-- Different steps have different letters. -/
theorem letter_inj {other : Nat} (small : step ≤ 0x1000) (small' : other ≤ 0x1000)
    (same : Ladder.letter step = Ladder.letter other) : step = other := by
  -- The letter at the foot lies below all the others.
  have number := congrArg UInt32.toNat same
  rw [toNat_letter small, toNat_letter small'] at number
  split at number <;> split at number <;> omega

/-- No letter is a syllable. -/
theorem isSyllable_letter (small : step ≤ 0x1000) :
    Hangul.isSyllable (Ladder.letter step) = false := by
  -- All letters come before the syllables.
  rw [← Bool.not_eq_true, Hangul.isSyllable_iff, toNat_letter small]
  split <;> omega

/-- A letter is listed for each step. -/
theorem mem_entries {entry : CodePoint × Record} (member : entry ∈ entries height) :
    ∃ step < height, entry = (Ladder.letter (step + 1),
      ⟨0, .empty, .canonical, 1, UInt16.ofNat step⟩) := by
  -- There is one entry for each step from the foot upwards.
  simp only [entries, Ladder.entries, List.mem_map, List.mem_range] at member
  obtain ⟨step, within, rfl⟩ := member
  exact ⟨step, within, rfl⟩

/-- The number of a letter is its step. -/
theorem number_letter (small : height ≤ 0x1000) (within : step ≤ height) :
    Listed.number (entries height) (Ladder.letter step) = step := by
  cases step with
  | zero =>
    -- The letter at the foot is none of those that are mapped.
    have absent : (entries height).findIdx? (fun entry => entry.1 = Ladder.letter 0) = none := by
      rw [List.findIdx?_eq_none_iff]
      intro entry member
      obtain ⟨step, below, rfl⟩ := mem_entries member
      rw [decide_eq_false_iff_not]
      intro same
      exact Nat.succ_ne_zero step (letter_inj (by omega) (by omega) same)
    rw [Listed.number, absent]
  | succ step =>
    have first : (entries height).findIdx? (fun entry => entry.1 = Ladder.letter (step + 1))
        = some step := by
      rw [List.findIdx?_eq_some_iff_getElem]
      have there : step < (entries height).length := by
        rw [entries, Ladder.entries, List.length_map, List.length_range]
        exact within
      refine ⟨there, by simp [entries, Ladder.entries], ?_⟩
      -- No letter below is the same.
      intro other before
      simp only [entries, Ladder.entries, List.getElem_map, List.getElem_range, decide_eq_true_eq]
      intro same
      exact absurd (letter_inj (by omega) (by omega) same) (by omega)
    rw [Listed.number, first]

/-- A tower that is not too high can be stored. -/
theorem fits (small : height ≤ 0x1000) : Listed.Fits (entries height) (mapping height) [] where
  -- Every code point of the chain is a letter below the surrogates, whatever the height.
  inside entry member := by
    obtain ⟨step, within, rfl⟩ := mem_entries member
    simp only [toNat_letter (Nat.le_trans within small)]
    split <;> omega
  few := by
    simp only [entries, Ladder.entries, List.length_map, List.length_range]
    omega
  small := by
    simp only [mapping, List.length_map, List.length_range, List.length_nil]
    omega
  mapped entry member := by
    obtain ⟨step, within, rfl⟩ := mem_entries member
    have place : step % 65536 = step := Nat.mod_eq_of_lt (by omega)
    simpa [mapping, place, Nat.succ_le_iff] using within
  targets number member := by
    simp only [mapping, List.map_map, List.mem_map, List.mem_range, Function.comp] at member
    obtain ⟨step, within, rfl⟩ := member
    rw [toNat_letter (by omega)]
    split <;> omega
  ascending := rfl
  composable := by simp

/-- The record of each letter is mapped to the letter below it. -/
theorem mappingOf_step (small : height ≤ 0x1000) (within : step < height) :
    (table height).mappingOf ((table height).records.getD (step + 1) .default)
      = [Ladder.letter step] := by
  have place : (UInt16.ofNat step).toNat = step := by
    rw [UInt16.toNat_ofNat', Nat.mod_eq_of_lt (by omega)]
  have record : (Listed.records (entries height)).getD (step + 1) .default
      = ⟨0, .empty, .canonical, 1, UInt16.ofNat step⟩ := by
    simp [Listed.records, entries, Ladder.entries, within]
  -- The mapped code points are in the order of the steps.
  have stretch : ((mapping height).drop step).take 1 = [Ladder.letter step] := by
    rw [mapping, ← List.map_drop, ← List.map_take, List.take_one]
    simp [within]
  rw [table, Listed.mappingOf_eq, Listed.records_eq, Array.getD_eq_getD_getElem?,
    List.getElem?_toArray, ← List.getD_eq_getElem?_getD, record, place]
  exact stretch

/-- The number of the record of a letter is its step. -/
theorem recordIndex_letter (small : height ≤ 0x1000) (within : step ≤ height) :
    (table height).recordIndex (Ladder.letter step) = step := by
  rw [table, Listed.recordIndex_eq (fits small), number_letter small within]

/-- The mappings lead from each letter through all that lie below it. -/
theorem leadsFar (small : height ≤ 0x1000) (within : step ≤ height) :
    (table height).LeadsFar step step := by
  -- Each step is mapped to the one below it, and the lowest one to the foot.
  induction step with
  | zero => trivial
  | succ step ih =>
    refine ⟨Ladder.letter step, [], mappingOf_step small within, isSyllable_letter (by omega), ?_⟩
    rw [recordIndex_letter small (by omega)]
    exact ih (by omega)

/-- A tower is loaded, since each letter is mapped to one of lower number. -/
theorem load_bytes (small : height ≤ 0x1000) :
    PropertyTable.load (bytes height) = .ok (table height) := by
  have stored : (table height).StoredIn (bytes height) := Listed.storedIn_bytes (fits small)
  -- Each search finds the depth below already known, so it goes down one level only.
  refine PropertyTable.load_eq_ok_iff.mpr ⟨stored, PropertyTable.nests_of_lower stored.first ?_⟩
  intro index within code member _
  rw [table, Listed.records_eq] at within
  simp only [Listed.records, entries, Ladder.entries, List.size_toArray, List.length_cons,
    List.length_map, List.length_range] at within
  cases index with
  | zero => simp [Array.getD_eq_getD_getElem?, stored.first] at member
  | succ step =>
    rw [mappingOf_step small (by omega), List.mem_singleton] at member
    rw [member, recordIndex_letter small (by omega)]
    exact Nat.lt_succ_self step

/-- A tower with more letters than a byte can count is loaded, but not without a trap. -/
theorem loadGuarded_bytes (small : height ≤ 0x1000) (tall : 255 ≤ height) :
    PropertyTable.loadGuarded .stops (bytes height) = stopped .depth := by
  have stored : (table height).StoredIn (bytes height) := Listed.storedIn_bytes (fits small)
  -- The letter on step 255 has the depth that is one too many for a byte.
  have deep : ¬(table height).NestsWithin 255 255 :=
    PropertyTable.LeadsFar.not_nestsWithin (leadsFar small tall)
  rcases PropertyTable.loadGuarded_of_storedIn stored .stops with
    ⟨-, nests⟩ | ⟨-, trapped, -⟩
  · exact absurd (nests rfl (load_bytes small) 255) deep
  · exact trapped

/-- The lowest tower whose depth does not fit into a byte, although it is loaded. -/
theorem loadGuarded_bytes_lowest :
    PropertyTable.load (bytes 255) = .ok (table 255) ∧
      PropertyTable.loadGuarded .stops (bytes 255) = stopped .depth :=
  -- The tower of 255 steps is the lowest one whose depth does not fit into a byte.
  ⟨load_bytes (by decide), loadGuarded_bytes (by decide) (by decide)⟩

end UniText.Tower
