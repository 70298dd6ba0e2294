import UniText.Proofs.Property.Listed

/-! How deep the mappings of a loaded table may nest, and where the limit depends on the numbers
of the records. -/

namespace UniText.PropertyTable

/-- A record nests at most a number of levels deep.

A record without a mapping takes one level, and so does a syllable. Any other record lies one level
above the deepest code point of its mapping. -/
def NestsWithin (table : PropertyTable) : (limit : Nat) → (index : Nat) → Prop
  | 0, _ => False
  | limit + 1, index =>
    ∀ code ∈ table.mappingOf (table.records.getD index .default),
      if Hangul.isSyllable code then 0 < limit
      else table.NestsWithin limit (table.recordIndex code)

/-- Mappings lead on through a number of records, always by the first code point of each. -/
def LeadsFar (table : PropertyTable) : (levels : Nat) → (index : Nat) → Prop
  | 0, _ => True
  | levels + 1, index =>
    ∃ code rest, table.mappingOf (table.records.getD index .default) = code :: rest ∧
      Hangul.isSyllable code = false ∧ table.LeadsFar levels (table.recordIndex code)

variable {table : PropertyTable}

/-- A record that nests within a number of levels is searched in as many. -/
theorem NestsWithin.endsWithin (known : Nat → Prop) {limit index : Nat}
    (nests : table.NestsWithin limit index) : table.EndsWithin known limit index := by
  induction limit generalizing index with
  | zero => exact nests.elim
  | succ limit ih =>
    -- Whether records are known makes no difference here.
    refine .inr fun code member plain => ih ?_
    simpa [plain] using nests code member

/-- A record that nests within a number of levels nests within more of them. -/
theorem NestsWithin.mono {limit more index : Nat} (nests : table.NestsWithin limit index)
    (least : limit ≤ more) : table.NestsWithin more index := by
  induction limit generalizing more index with
  | zero => exact nests.elim
  | succ limit ih =>
    obtain ⟨more, rfl⟩ := Nat.exists_eq_succ_of_ne_zero (show more ≠ 0 by omega)
    intro code member
    have below := nests code member
    -- A syllable needs one level only, and any other code point nests by induction.
    split
    · next syllable =>
      rw [if_pos syllable] at below
      omega
    · next plain =>
      rw [if_neg plain] at below
      exact ih below (Nat.le_of_succ_le_succ least)

/-- The size of the data that a table comes from has nothing to do with the nesting. -/
theorem nestsWithin_sized {limit index size : Nat} (nests : table.NestsWithin limit index) :
    { table with dataLength := size }.NestsWithin limit index := by
  -- Induction on the limit: the size is no part of what a level looks at.
  induction limit generalizing index with
  | zero => exact nests.elim
  | succ limit ih =>
    intro code member
    have below := nests code member
    split
    · next syllable => rwa [if_pos syllable] at below
    · next plain =>
      rw [if_neg plain] at below
      exact ih below

/-- In a loaded table no record nests deeper than there are records. -/
theorem Checked.nestsWithin (checked : table.Checked) (index : Nat) :
    table.NestsWithin table.records.size index := by
  obtain ⟨rank, bounded, descends, positive⟩ := checked.exists_rank
  -- Each level lowers the rank.
  have ranked {limit index : Nat} (below : rank index < limit) :
      table.NestsWithin limit index := by
    induction limit generalizing index with
    | zero => omega
    | succ limit ih =>
      intro code member
      have high := positive index (List.ne_nil_of_mem member)
      split
      · omega
      · next notSyllable =>
        have lower := descends (table.recordIndex code) index
          ⟨code, member, by simpa using notSyllable, rfl⟩
        exact ih (by omega)
  exact ranked (bounded index)

/-- A record from which mappings lead through a number of others does not nest within as many
levels. -/
theorem LeadsFar.not_nestsWithin {levels index : Nat} (far : table.LeadsFar levels index) :
    ¬table.NestsWithin levels index := by
  induction levels generalizing index with
  | zero => exact id
  | succ levels ih =>
    -- The record that the mapping leads on to would nest within one level less.
    intro nests
    obtain ⟨code, rest, mapped, plain, below⟩ := far
    have member : code ∈ table.mappingOf (table.records.getD index .default) := by
      rw [mapped]
      exact List.mem_cons_self
    have lower := nests code member
    exact ih below (by simpa [plain] using lower)

/-- While no depth is known, a search gives up on a way that is longer than its levels. -/
theorem depthOf_eq_none {levels index : Nat} {depths : Depths}
    (far : table.LeadsFar levels index) (unknown : ∀ other, ¬Knows depths other) :
    table.depthOf levels index depths = none := by
  induction levels generalizing index with
  | zero =>
    rw [depthOf]
    exact if_neg (unknown index)
  | succ levels ih =>
    obtain ⟨code, rest, mapped, plain, below⟩ := far
    -- The search does not come back from the first code point of the mapping.
    have stuck : table.deepen levels (1, depths) code = none := by
      simp [deepen, plain, ih below]
    rw [depthOf_of_not_knows (unknown index), mapped, List.foldlM_cons, stuck]
    rfl

/-- A long way that begins with the record that is searched first is rejected. -/
theorem nestsWithinLimit_of_leadsFar (several : 1 < table.records.size)
    (far : table.LeadsFar depthLimit 1) : table.nestsWithinLimit = false := by
  obtain ⟨count, size⟩ := Nat.exists_eq_add_of_lt several
  -- Nothing is searched after a search that failed.
  rw [nestsWithinLimit, size, show 1 + count + 1 - 1 = count + 1 by omega, ← size, depthsFrom,
    depthOf_eq_none far (not_knows_replicate _)]
  rfl

/-- What the check of the nesting does with data that passes every other one.

Data is accepted if no record nests deeper than the limit, and also if its records are numbered from
below, whatever their depth; what is accepted has no cycle; and all other data has one error. -/
theorem load_by_nesting {bytes : List UInt8} (stored : table.StoredIn bytes) :
    ((∀ index < table.records.size, table.NestsWithin depthLimit index) →
        load bytes = .ok table) ∧
      ((∀ index < table.records.size,
        ∀ code ∈ table.mappingOf (table.records.getD index .default),
          Hangul.isSyllable code = false → table.recordIndex code < index) →
        load bytes = .ok table) ∧
      (load bytes = .ok table →
        ∀ index, table.NestsWithin table.records.size index) ∧
      (load bytes ≠ .ok table →
        load bytes = .error (.corrupt "decomposition mapping is cyclic or too deep")) := by
  -- Only the check of the nesting is left to decide.
  refine ⟨?_, ?_, ?_, ?_⟩
  · intro within
    refine load_eq_ok_iff.mpr ⟨stored, nests_of_endsWithin fun index _ below => ?_⟩
    exact (within index below).endsWithin _
  · intro lower
    exact load_eq_ok_iff.mpr ⟨stored, nests_of_lower stored.first lower⟩
  · intro loaded
    exact (checked_of_load loaded).nestsWithin
  · intro refused
    rw [load_of_storedIn stored] at refused ⊢
    split at refused
    · exact absurd rfl refused
    · rename_i tooDeep
      rw [if_neg tooDeep]

end UniText.PropertyTable

namespace UniText.Ladder

/-- The letters of a ladder: a plain one at the foot, and eight that are mapped one to the next. -/
def letter : Nat → CodePoint
  | 0 => 0x41
  | step + 1 => UInt32.ofNat (0x1000 + step)

/-- The mapped letters, which have their records in a given order of the steps. -/
def entries (order : List Nat) : List (CodePoint × Record) :=
  order.map fun step => (letter (step + 1), ⟨0, .empty, .canonical, 1, UInt16.ofNat step⟩)

/-- What the letters are mapped to: each to the one below it. -/
def mapping : List CodePoint := (List.range 8).map letter

/-- The steps from the foot to the top. -/
def upwards : List Nat := List.range 8

/-- The steps from the top to the foot. -/
def downwards : List Nat := (List.range 8).reverse

/-- The ladder as it is stored, with its records in a given order. -/
def bytes (order : List Nat) : List UInt8 := Listed.bytes (entries order) mapping []

/-- The ladder as a table, with its records in a given order. -/
def table (order : List Nat) : PropertyTable := Listed.table (entries order) mapping []

/-- Both orders can be stored. -/
theorem fits {order : List Nat} (either : order = upwards ∨ order = downwards) :
    Listed.Fits (entries order) mapping [] := by
  -- The two orders list the same entries; each condition runs on either list.
  rcases either with rfl | rfl
  all_goals exact
    { inside := by decide
      few := by decide
      small := by decide
      mapped := by decide
      targets := by decide
      ascending := rfl
      composable := by decide }

/-- The ladder has a record for each mapped letter, and the first one. -/
theorem size_records {order : List Nat} (either : order = upwards ∨ order = downwards) :
    (table order).records.size = 9 := by
  -- Nine records: the default one and the eight of the chain.
  rw [table, Listed.records_eq]
  rcases either with rfl | rfl <;> rfl

/-- In both orders every code point has the same record. -/
theorem record_order (code : CodePoint) :
    (table upwards).record code = (table downwards).record code := by
  -- A code point is listed once, so reversing the entries changes no lookup.
  have reversed : entries downwards = (entries upwards).reverse := List.map_reverse
  rw [table, table, Listed.record_eq (fits (.inl rfl)), Listed.record_eq (fits (.inr rfl)),
    reversed, Listed.recordOf_reverse (by decide)]

/-- No mapping of the ladder leads to a syllable. -/
theorem isSyllable_letter :
    ∀ {step : Nat}, step < 8 → Hangul.isSyllable (letter step) = false := by
  decide

/-- In both orders each letter is mapped to the one below it. -/
theorem mappingOf_letter {order : List Nat} (either : order = upwards ∨ order = downwards)
    {step : Nat} (within : step < 8) :
    (table order).mappingOf ((table order).record (letter (step + 1))) = [letter step] := by
  have record : ∀ step < 8, Listed.recordOf (entries order) (letter (step + 1))
      = ⟨0, .empty, .canonical, 1, UInt16.ofNat step⟩ := by
    rcases either with rfl | rfl <;> decide
  have stretch : ∀ step < 8,
      (mapping.drop (UInt16.ofNat step).toNat).take 1 = [letter step] := by
    decide
  -- The record points to the place of the step among the mapped code points.
  rw [table, Listed.mappingOf_eq, Listed.record_eq (fits either), record step within]
  exact stretch step within

/-- In both orders the mappings lead from each letter through all that lie below it. -/
theorem leadsFar {order : List Nat} (either : order = upwards ∨ order = downwards)
    {step : Nat} (within : step ≤ 8) :
    (table order).LeadsFar step ((table order).recordIndex (letter step)) := by
  -- Each letter maps to the one before it, so a step up the chain is a level more.
  induction step with
  | zero => trivial
  | succ step ih =>
    exact ⟨letter step, [], mappingOf_letter either within, isSyllable_letter within,
      ih (by omega)⟩

/-- In both orders no letter nests within as many levels as lie below it. -/
theorem not_nestsWithin {order : List Nat} (either : order = upwards ∨ order = downwards)
    {step : Nat} (within : step ≤ 8) :
    ¬(table order).NestsWithin step ((table order).recordIndex (letter step)) :=
  (leadsFar either within).not_nestsWithin

/-- From the foot to the top, the number of a letter is its step. -/
theorem recordIndex_upwards {step : Nat} (within : step ≤ 8) :
    (table upwards).recordIndex (letter step) = step := by
  -- Numbered from the foot, a letter's record has the number of its step.
  have number : ∀ step < 9, Listed.number (entries upwards) (letter step) = step := by decide
  rw [table, Listed.recordIndex_eq (fits (.inl rfl)), number step (by omega)]

/-- From the foot to the top, each letter is mapped to one that is listed before it. -/
theorem descends_upwards : Listed.Descends (entries upwards) mapping := by decide

/-- From the top to the foot, the letter at the top comes first. -/
theorem recordIndex_top : (table downwards).recordIndex (letter 8) = 1 := by
  rw [table, Listed.recordIndex_eq (fits (.inr rfl))]
  decide

/-- Numbered from the top to the foot, the ladder is rejected. -/
theorem nests_downwards : (table downwards).nestsWithinLimit = false := by
  -- Numbered from the top, the first record walked is the whole chain, with no memo to shorten it.
  have far := leadsFar (.inr rfl) (Nat.le_refl 8)
  rw [recordIndex_top] at far
  refine PropertyTable.nestsWithinLimit_of_leadsFar ?_ far
  rw [size_records (.inr rfl)]
  decide

/-- From the foot to the top the ladder is loaded, and its top lies on the ninth level. -/
theorem load_by_nesting_upwards :
    (table upwards).StoredIn (bytes upwards) ∧
      PropertyTable.load (bytes upwards) = .ok (table upwards) ∧
      ∀ index, (table upwards).NestsWithin 9 index := by
  have stored : (table upwards).StoredIn (bytes upwards) := Listed.storedIn_bytes (fits (.inl rfl))
  -- Nine levels are as many as there are records.
  have ⟨_, fromBelow, acyclic, _⟩ := PropertyTable.load_by_nesting stored
  have loaded := fromBelow fun _ within _ member _ =>
    Listed.recordIndex_lt (fits (.inl rfl)) descends_upwards within member
  refine ⟨stored, loaded, ?_⟩
  simpa [size_records (.inl rfl)] using acyclic loaded

/-- Whether a ladder of nine levels is loaded depends on the order of its records alone. -/
theorem load_of_order :
    (table upwards).StoredIn (bytes upwards) ∧ (table downwards).StoredIn (bytes downwards) ∧
      (∀ code, (table upwards).mappingOf ((table upwards).record code)
        = (table downwards).mappingOf ((table downwards).record code)) ∧
      ¬(table upwards).NestsWithin PropertyTable.depthLimit 8 ∧
      ¬(table downwards).NestsWithin PropertyTable.depthLimit 1 ∧
      PropertyTable.load (bytes upwards) = .ok (table upwards) ∧
      PropertyTable.load (bytes downwards)
        = .error (.corrupt "decomposition mapping is cyclic or too deep") := by
  have up : (table upwards).StoredIn (bytes upwards) := Listed.storedIn_bytes (fits (.inl rfl))
  have down : (table downwards).StoredIn (bytes downwards) :=
    Listed.storedIn_bytes (fits (.inr rfl))
  refine ⟨up, down, ?_, ?_, ?_, ?_, ?_⟩
  · intro code
    -- The mapped code points are the same ones, in the same places.
    rw [record_order code, table, table, Listed.mappingOf_eq, Listed.mappingOf_eq]
  · have top := not_nestsWithin (.inl rfl) (Nat.le_refl 8)
    rwa [recordIndex_upwards (Nat.le_refl 8)] at top
  · have top := not_nestsWithin (.inr rfl) (Nat.le_refl 8)
    rwa [recordIndex_top] at top
  · exact Listed.load_bytes (fits (.inl rfl)) descends_upwards
  · rw [PropertyTable.load_of_storedIn down, nests_downwards]
    rfl

end UniText.Ladder
