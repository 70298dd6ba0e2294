import Mathlib.Data.Finset.Card
import Mathlib.Logic.Relation
import Mathlib.Order.WellFounded
import UniText.Proofs.Property.Loaded

/-! Nesting of mappings: when the search for it comes to an end, and what follows if it does. -/

namespace UniText.PropertyTable

/-- A record whose mapping leads on to another one. -/
def LeadsTo (table : PropertyTable) (below index : Nat) : Prop :=
  -- Syllables are taken apart without their records.
  ∃ code ∈ table.mappingOf (table.records.getD index .default),
    Hangul.isSyllable code = false ∧ table.recordIndex code = below

/-- The default record has no mapping. -/
@[simp] theorem mappingOf_default (table : PropertyTable) : table.mappingOf .default = [] := by
  simp [mappingOf, Record.default]

/-- From every record of a list, all ways to go on come to an end. -/
def Ends (table : PropertyTable) (index : Nat) : Prop := Acc table.LeadsTo index

/-- The depth of a record has been found. -/
def Knows (depths : Depths) (index : Nat) : Prop := depths.getD index 0 ≠ 0

/-- No depth is known before the search. -/
theorem not_knows_replicate (count index : Nat) : ¬Knows (Array.replicate count 0) index := by
  simp only [Knows, Array.getD_eq_getD_getElem?, Array.getElem?_replicate]
  split <;> simp

/-- A number that is zero, or that belongs to no record, leads to the default record. -/
theorem getD_of_not_among {table : PropertyTable} (first : table.records[0]? = some .default)
    {index : Nat} (outside : ¬(0 < index ∧ index < table.records.size)) :
    table.records.getD index .default = .default := by
  -- Record 0 is the default itself, and past the end the lookup falls back on it.
  by_cases zero : index = 0
  · simp [zero, Array.getD_eq_getD_getElem?, first]
  · have absent : table.records[index]? = none := Array.getElem?_eq_none (by omega)
    simp [Array.getD_eq_getD_getElem?, absent]

/-- The depths that a search has found belong to records from which every way comes to an end. -/
def DepthsEnd (table : PropertyTable) (depths : Depths) : Prop :=
  ∀ index, Knows depths index → table.Ends index

/-- The depth of a record so far, after one more code point of its mapping. -/
def deepen (table : PropertyTable) (levels : Nat) (state : UInt8 × Depths) (code : CodePoint) :
    Option (UInt8 × Depths) :=
  let found :=
    if Hangul.isSyllable code then some (1, state.2)
    else table.depthOf levels (table.recordIndex code) state.2
  found.map fun (below, depths) => (max state.1 (below + 1), depths)

/-- A depth is known, or found one level further down along the mapping. -/
theorem depthOf_succ (table : PropertyTable) (levels index : Nat) (depths : Depths) :
    table.depthOf (levels + 1) index depths =
      if depths.getD index 0 ≠ 0 then some (depths.getD index 0, depths)
      else ((table.mappingOf (table.records.getD index .default)).foldlM (table.deepen levels)
        (1, depths)).map fun (depth, depths) => (depth, depths.setIfInBounds index depth) := by
  -- One more code point is looked at in the same way, in other words.
  have step : table.deepen levels = fun (depth, depths) code => do
      let (below, depths) ←
        if Hangul.isSyllable code then some (1, depths)
        else table.depthOf levels (table.recordIndex code) depths
      return (max depth (below + 1), depths) := by
    funext ⟨depth, depths⟩ code
    simp only [deepen]
    split <;> simp only [Option.map_eq_bind] <;> rfl
  rw [depthOf, step]
  simp only [Option.map_eq_bind]
  rfl

/-- A known depth is found on every level. -/
theorem depthOf_of_knows {index : Nat} {depths : Depths} (known : Knows depths index)
    (table : PropertyTable) (levels : Nat) :
    table.depthOf levels index depths = some (depths.getD index 0, depths) := by
  -- The memo is read before the level is looked at, so both cases take the first branch.
  cases levels with
  | zero =>
    rw [depthOf]
    exact if_pos known
  | succ levels =>
    rw [depthOf_succ]
    exact if_pos known

/-- An unknown depth is found along the mapping, with one level less for what is below. -/
theorem depthOf_of_not_knows {index : Nat} {depths : Depths} (unknown : ¬Knows depths index)
    (table : PropertyTable) (levels : Nat) : table.depthOf (levels + 1) index depths =
      ((table.mappingOf (table.records.getD index .default)).foldlM (table.deepen levels)
        (1, depths)).map fun (depth, depths) => (depth, depths.setIfInBounds index depth) := by
  -- With a level left and nothing remembered, only the walk over the mapping remains.
  rw [depthOf_succ]
  exact if_neg unknown

/-- A depth that is found was known, or was found along the mapping with one level less. -/
theorem depthOf_eq_some {table : PropertyTable} {levels index : Nat} {depths after : Depths}
    {depth : UInt8} (found : table.depthOf levels index depths = some (depth, after)) :
    Knows depths index ∧ after = depths ∨
      ∃ fewer between, levels = fewer + 1 ∧ after = between.setIfInBounds index depth ∧
        (table.mappingOf (table.records.getD index .default)).foldlM (table.deepen fewer)
          (1, depths) = some (depth, between) := by
  by_cases known : Knows depths index
  · rw [depthOf_of_knows known, Option.some.injEq, Prod.mk.injEq] at found
    exact .inl ⟨known, found.2.symm⟩
  · cases levels with
    | zero =>
      -- Without levels left only a known depth is an answer.
      rw [depthOf] at found
      exact absurd ((if_neg known).symm.trans found) (by simp)
    | succ levels =>
      rw [depthOf_of_not_knows known] at found
      obtain ⟨⟨deepest, between⟩, followed, same⟩ := Option.map_eq_some_iff.mp found
      simp only [Prod.mk.injEq] at same
      obtain ⟨rfl, rfl⟩ := same
      exact .inr ⟨levels, between, rfl, rfl, followed⟩

/-- Following a mapping ends when following each of its code points does. -/
theorem ends_of_foldlM_deepen {table : PropertyTable} {levels : Nat}
    (deeper : ∀ {index depths depth after},
      table.depthOf levels index depths = some (depth, after) → table.DepthsEnd depths →
        table.Ends index ∧ table.DepthsEnd after)
    {codes : List CodePoint} {state after : UInt8 × Depths}
    (found : codes.foldlM (table.deepen levels) state = some after)
    (known : table.DepthsEnd state.2) :
    (∀ code ∈ codes, Hangul.isSyllable code = false → table.Ends (table.recordIndex code)) ∧
      table.DepthsEnd after.2 := by
  -- The depths that were found are handed on from one code point to the next.
  induction codes generalizing state with
  | nil =>
    simp only [List.foldlM_nil, Pure.pure, Option.some.injEq] at found
    subst found
    exact ⟨by simp, known⟩
  | cons code codes ih =>
    rw [List.foldlM_cons] at found
    obtain ⟨next, stepped, rest⟩ := Option.bind_eq_some_iff.mp found
    have ⟨here, between⟩ : (Hangul.isSyllable code = false →
        table.Ends (table.recordIndex code)) ∧ table.DepthsEnd next.2 := by
      unfold deepen at stepped
      obtain ⟨⟨below, depths⟩, searched, rfl⟩ := Option.map_eq_some_iff.mp stepped
      split at searched
      · -- A syllable is not followed any further.
        next syllable =>
        simp only [Option.some.injEq, Prod.mk.injEq] at searched
        obtain ⟨-, rfl⟩ := searched
        exact ⟨fun plain => by simp [syllable] at plain, known⟩
      · obtain ⟨ends, kept⟩ := deeper searched known
        exact ⟨fun _ => ends, kept⟩
    -- The other code points are followed with what is known by then.
    obtain ⟨others, kept⟩ := ih rest between
    refine ⟨?_, kept⟩
    intro other member
    rcases List.mem_cons.mp member with rfl | member
    · exact here
    · exact others other member

/-- A search that finds a depth has followed every way to its end. -/
theorem ends_of_depthOf {table : PropertyTable} {levels index : Nat} {depths after : Depths}
    {depth : UInt8} (found : table.depthOf levels index depths = some (depth, after))
    (known : table.DepthsEnd depths) : table.Ends index ∧ table.DepthsEnd after := by
  -- What lies below is searched with fewer levels.
  induction levels using Nat.strongRecOn generalizing index depths depth after with
  | ind levels ih =>
    rcases depthOf_eq_some found with ⟨here, rfl⟩ | ⟨fewer, between, rfl, rfl, followed⟩
    · exact ⟨known index here, known⟩
    · -- An unknown depth is found along the mapping, and then becomes known.
      obtain ⟨below, kept⟩ := ends_of_foldlM_deepen (ih fewer (by omega)) followed known
      have here : table.Ends index := by
        refine .intro _ ?_
        rintro _ ⟨code, member, plain, rfl⟩
        exact below code member plain
      refine ⟨here, ?_⟩
      intro other found
      by_cases same : other = index
      · exact same ▸ here
      · -- No other depth has changed.
        exact kept other (by
          simpa [Knows, Array.getD_eq_getD_getElem?,
            Array.getElem?_setIfInBounds_ne (Ne.symm same)] using found)

/-- A search that goes through a number of records has followed every way from them to its end. -/
theorem ends_of_depthsFrom {table : PropertyTable} {first count : Nat} {depths after : Depths}
    (found : table.depthsFrom first count depths = some after) (known : table.DepthsEnd depths)
    {index : Nat} (from_ : first ≤ index) (below : index < first + count) : table.Ends index := by
  induction count generalizing first depths with
  | zero => omega
  | succ count ih =>
    rw [depthsFrom] at found
    obtain ⟨⟨depth, between⟩, searched, rest⟩ := Option.bind_eq_some_iff.mp found
    obtain ⟨here, kept⟩ := ends_of_depthOf searched known
    -- The record is the one that was searched first, or one of those after it.
    by_cases same : index = first
    · exact same ▸ here
    · exact ih rest kept (by omega) (by omega)

/-- What is known before some code points of a mapping are followed is known after it.

The depth so far is never zero. -/
theorem knows_of_foldlM_deepen {table : PropertyTable} {levels : Nat}
    (deeper : ∀ {index depths depth after},
      table.depthOf levels index depths = some (depth, after) →
        after.size = depths.size ∧ ∀ other, Knows depths other → Knows after other)
    {codes : List CodePoint} {state after : UInt8 × Depths}
    (found : codes.foldlM (table.deepen levels) state = some after) (positive : 0 < state.1) :
    0 < after.1 ∧ after.2.size = state.2.size ∧
      ∀ other, Knows state.2 other → Knows after.2 other := by
  induction codes generalizing state with
  | nil =>
    simp only [List.foldlM_nil, Pure.pure, Option.some.injEq] at found
    subst found
    exact ⟨positive, rfl, fun _ => id⟩
  | cons code codes ih =>
    rw [List.foldlM_cons] at found
    obtain ⟨next, stepped, rest⟩ := Option.bind_eq_some_iff.mp found
    have ⟨above, same, kept⟩ : 0 < next.1 ∧ next.2.size = state.2.size ∧
        ∀ other, Knows state.2 other → Knows next.2 other := by
      unfold deepen at stepped
      obtain ⟨⟨below, depths⟩, searched, rfl⟩ := Option.map_eq_some_iff.mp stepped
      -- The depth only grows, whatever lies below.
      have grows : state.1 ≤ max state.1 (below + 1) := by
        show state.1 ≤ if state.1 ≤ below + 1 then below + 1 else state.1
        split
        · assumption
        · exact UInt8.le_refl _
      refine ⟨UInt8.lt_of_lt_of_le positive grows, ?_⟩
      split at searched
      · simp only [Option.some.injEq, Prod.mk.injEq] at searched
        obtain ⟨-, rfl⟩ := searched
        exact ⟨rfl, fun _ => id⟩
      · exact deeper searched
    -- Nothing is forgotten on the way.
    obtain ⟨final, size, later⟩ := ih rest above
    exact ⟨final, size.trans same, fun other known => later other (kept other known)⟩

/-- A search makes the depth of its record known, and forgets no other. -/
theorem knows_of_depthOf {table : PropertyTable} {levels index : Nat} {depths after : Depths}
    {depth : UInt8} (found : table.depthOf levels index depths = some (depth, after)) :
    after.size = depths.size ∧ (∀ other, Knows depths other → Knows after other) ∧
      (index < depths.size → Knows after index) := by
  induction levels using Nat.strongRecOn generalizing index depths depth after with
  | ind levels ih =>
    rcases depthOf_eq_some found with ⟨known, rfl⟩ | ⟨fewer, between, rfl, rfl, followed⟩
    · exact ⟨rfl, fun _ => id, fun _ => known⟩
    · have one : (0 : UInt8) < 1 := by decide
      obtain ⟨positive, size, kept⟩ := knows_of_foldlM_deepen (fun searched =>
        let searched := ih fewer (by omega) searched
        ⟨searched.1, searched.2.1⟩) followed one
      simp only at positive size kept
      -- A depth that is not zero is stored, so that it counts as known.
      have here (within : index < depths.size) :
          Knows (between.setIfInBounds index depth) index := by
        have nonzero : depth ≠ 0 := (UInt8.ne_of_lt positive).symm
        simpa [Knows, Array.getD_eq_getD_getElem?, size, within] using nonzero
      refine ⟨by simpa using size, ?_, here⟩
      intro other known
      by_cases same : other = index
      · -- A known depth belongs to a record that is there.
        subst same
        apply here
        by_contra outside
        exact known (by simp [Array.getD_eq_getD_getElem?, Nat.not_lt.mp outside])
      · simpa [Knows, Array.getD_eq_getD_getElem?, Array.getElem?_setIfInBounds_ne (Ne.symm same)]
          using kept other known

/-- Every way on from a record ends, or meets a known one, within a number of levels. -/
def EndsWithin (table : PropertyTable) (known : Nat → Prop) : (levels : Nat) → (index : Nat) → Prop
  | 0, index => known index
  | levels + 1, index =>
    -- Syllables take no level, since their records are not entered.
    known index ∨ ∀ code ∈ table.mappingOf (table.records.getD index .default),
      Hangul.isSyllable code = false → table.EndsWithin known levels (table.recordIndex code)

/-- The code points of a mapping can be followed if each of them can, whatever else is known. -/
theorem exists_foldlM_deepen {table : PropertyTable} {known : Nat → Prop} {levels : Nat}
    {codes : List CodePoint} (followed : ∀ code ∈ codes, Hangul.isSyllable code = false →
      ∀ depths, (∀ other, known other → Knows depths other) →
        ∃ found, table.depthOf levels (table.recordIndex code) depths = some found)
    {state : UInt8 × Depths} (known_ : ∀ other, known other → Knows state.2 other) :
    ∃ after, codes.foldlM (table.deepen levels) state = some after := by
  induction codes generalizing state with
  | nil => exact ⟨state, rfl⟩
  | cons code codes ih =>
    have ⟨next, stepped, kept⟩ : ∃ next, table.deepen levels state code = some next ∧
        ∀ other, known other → Knows next.2 other := by
      cases syllable : Hangul.isSyllable code with
      | true => exact ⟨(max state.1 (1 + 1), state.2), by simp [deepen, syllable], known_⟩
      | false =>
        obtain ⟨⟨below, depths⟩, found⟩ := followed code (by simp) syllable state.2 known_
        refine ⟨(max state.1 (below + 1), depths), by simp [deepen, syllable, found], ?_⟩
        intro other member
        exact (knows_of_depthOf found).2.1 other (known_ other member)
    -- The other code points know at least what was known for the first one.
    have others : ∀ other ∈ codes, Hangul.isSyllable other = false →
        ∀ depths, (∀ other, known other → Knows depths other) →
          ∃ found, table.depthOf levels (table.recordIndex other) depths = some found := by
      intro other member
      exact followed other (by simp [member])
    rw [List.foldlM_cons, stepped]
    exact ih others kept

/-- A search finds a depth if every way ends or meets a known record in time. -/
theorem exists_depthOf {table : PropertyTable} {known : Nat → Prop} {levels index : Nat}
    (ends : table.EndsWithin known levels index) {depths : Depths}
    (known_ : ∀ other, known other → Knows depths other) :
    ∃ found, table.depthOf levels index depths = some found := by
  induction levels generalizing index depths with
  | zero => exact ⟨_, depthOf_of_knows (known_ index ends) table 0⟩
  | succ levels ih =>
    by_cases here : Knows depths index
    · exact ⟨_, depthOf_of_knows here table _⟩
    · -- An unknown record is entered, which leaves one level less for those below it.
      have below := ends.resolve_left fun member => here (known_ index member)
      have followed : ∀ code ∈ table.mappingOf (table.records.getD index .default),
          Hangul.isSyllable code = false → ∀ depths, (∀ other, known other → Knows depths other) →
            ∃ found, table.depthOf levels (table.recordIndex code) depths = some found := by
        intro code member plain depths known_
        exact ih (below code member plain) known_
      have ⟨after, found⟩ : ∃ after, List.foldlM (table.deepen levels) (1, depths)
          (table.mappingOf (table.records.getD index .default)) = some after :=
        exists_foldlM_deepen followed known_
      rw [depthOf_of_not_knows here, found]
      exact ⟨_, rfl⟩

/-- A search through a number of records comes to an end if it does for each of them.

Each search may count on those of the records before it, except the first record of all. -/
theorem exists_depthsFrom {table : PropertyTable} {first count : Nat} {depths : Depths}
    (size : first + count ≤ depths.size)
    (before : ∀ other, 0 < other ∧ other < first → Knows depths other)
    (ends : ∀ index, first ≤ index → index < first + count →
      table.EndsWithin (fun other => 0 < other ∧ other < index) depthLimit index) :
    ∃ after, table.depthsFrom first count depths = some after := by
  induction count generalizing first depths with
  | zero => exact ⟨depths, rfl⟩
  | succ count ih =>
    obtain ⟨⟨depth, between⟩, found⟩ :=
      exists_depthOf (ends first (Nat.le_refl _) (by omega)) before
    obtain ⟨same, kept, here⟩ := knows_of_depthOf found
    rw [depthsFrom, found]
    apply ih
    · omega
    · intro other member
      -- The record that was searched is one more that is known.
      by_cases last : other = first
      · exact last ▸ here (by omega)
      · exact kept other (before other (by omega))
    · intro index from_ below
      exact ends index (by omega) (by omega)

/-- The nesting is accepted if every way ends, or meets a record of lower number, in time. -/
theorem nests_of_endsWithin {table : PropertyTable}
    (ends : ∀ index, 0 < index → index < table.records.size →
      table.EndsWithin (fun other => 0 < other ∧ other < index) depthLimit index) :
    table.nestsWithinLimit = true := by
  rw [nestsWithinLimit, Option.isSome_iff_exists]
  by_cases empty : table.records.size = 0
  · -- Without records there is nothing to search.
    exact ⟨_, by simp only [empty]; rfl⟩
  · apply exists_depthsFrom
    · rw [Array.size_replicate]
      omega
    · intro other member
      omega
    · intro index from_ below
      exact ends index (by omega) (by omega)

/-- Records that lead to lower numbers only are accepted, however deep they nest. -/
theorem nests_of_lower {table : PropertyTable} (first : table.records[0]? = some .default)
    (lower : ∀ index < table.records.size,
      ∀ code ∈ table.mappingOf (table.records.getD index .default),
        Hangul.isSyllable code = false → table.recordIndex code < index) :
    table.nestsWithinLimit = true := by
  refine nests_of_endsWithin fun index positive within => .inr fun code member plain => ?_
  have below := lower index within code member plain
  by_cases zero : table.recordIndex code = 0
  · -- The first record is never known, and has no mapping to follow.
    refine .inr fun other among => ?_
    simp [zero, Array.getD_eq_getD_getElem?, first] at among
  · exact .inl ⟨by omega, below⟩

/-- In a loaded table every way along the mappings comes to an end. -/
theorem Checked.ends {table : PropertyTable} (checked : table.Checked) (index : Nat) :
    table.Ends index := by
  by_cases among : 0 < index ∧ index < table.records.size
  · obtain ⟨after, found⟩ := Option.isSome_iff_exists.mp checked.nests
    refine ends_of_depthsFrom found ?_ (by omega) (by omega)
    intro other known
    exact absurd known (not_knows_replicate _ other)
  · -- The first record has no mapping, and neither has a number that belongs to no record.
    refine .intro _ ?_
    rintro _ ⟨code, member, -⟩
    simp [getD_of_not_among checked.first among] at member

/-- Only a record that is there, and is not the first one, has a mapping. -/
theorem Checked.mapped_index {table : PropertyTable} (checked : table.Checked) {index : Nat}
    (mapped : table.mappingOf (table.records.getD index .default) ≠ []) :
    index ≠ 0 ∧ index < table.records.size := by
  constructor
  · -- The first record is the default one.
    rintro rfl
    simp [Array.getD_eq_getD_getElem?, checked.first] at mapped
  · -- A number beyond the last record leads to the default one as well.
    apply Nat.lt_of_not_le
    intro beyond
    exact mapped (by simp [Array.getD_eq_getD_getElem?, Array.getElem?_eq_none beyond])

/-- Records can be ranked, below their number, so that mappings lead to lower ranks only. -/
theorem Checked.exists_rank {table : PropertyTable} (checked : table.Checked) :
    ∃ rank : Nat → Nat, (∀ index, rank index < table.records.size) ∧
      (∀ below index, table.LeadsTo below index → rank below < rank index) ∧
      ∀ index, table.mappingOf (table.records.getD index .default) ≠ [] → 0 < rank index := by
  classical
  -- The rank counts the records that a way leads to, except the first, which has no mapping.
  let reached (index : Nat) : Finset Nat := (Finset.range table.records.size).filter fun other =>
    other ≠ 0 ∧ Relation.ReflTransGen table.LeadsTo other index
  have positive : 0 < table.records.size := by
    have first := checked.first
    apply Nat.pos_of_ne_zero
    intro none
    rw [Array.getElem?_eq_none (by omega)] at first
    simp at first
  have itself {index : Nat} (mapped : table.mappingOf (table.records.getD index .default) ≠ []) :
      index ∈ reached index := by
    obtain ⟨nonzero, within⟩ := checked.mapped_index mapped
    simp [reached, nonzero, within, Relation.ReflTransGen.refl]
  refine ⟨fun index => (reached index).card, ?_, ?_, ?_⟩
  · -- The first record is never counted.
    intro index
    have proper : reached index ⊂ Finset.range table.records.size :=
      Finset.filter_ssubset.mpr ⟨0, by simpa using positive, by simp⟩
    simpa using Finset.card_lt_card proper
  · -- What the record below reaches is reached from above too, but not the one above itself.
    intro below index leads
    have cycleFree := (WellFounded.intro checked.ends).transGen
    apply Finset.card_lt_card
    refine (Finset.ssubset_iff_of_subset ?_).mpr ⟨index, ?_, ?_⟩
    · intro other member
      simp only [reached, Finset.mem_filter] at member ⊢
      exact ⟨member.1, member.2.1, member.2.2.tail leads⟩
    · apply itself
      intro empty
      obtain ⟨code, member, -⟩ := leads
      rw [empty] at member
      simp at member
    · -- A way back up would be a cycle.
      intro member
      simp only [reached, Finset.mem_filter] at member
      exact cycleFree.irrefl.irrefl index (Relation.TransGen.tail' member.2.2 leads)
  · -- A record with a mapping counts itself.
    intro index mapped
    exact Finset.card_pos.mpr ⟨index, itself mapped⟩

end UniText.PropertyTable
