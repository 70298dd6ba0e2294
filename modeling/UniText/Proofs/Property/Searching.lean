import UniText.Proofs.Property.Listed

/-! Searching for pairs: halving the sorted list finds whatever reading through it finds. -/

namespace UniText

namespace Composition

variable {compositions : Array Composition} {one other : Composition} {place index : Nat}

/-- A composition compares greater than the pair of another one that precedes it. -/
theorem comparePair_of_precedes (before : one.Precedes other) :
    other.comparePair one.first one.second = .gt := by
  have less := comparePair_lt_iff.mpr before
  -- Comparing the other way round swaps the outcome.
  rw [comparePair, ← Ordering.swap_inj, Ordering.swap_then, Std.OrientedOrd.eq_swap.symm,
    Std.OrientedOrd.eq_swap.symm]
  exact less

/-- In a sorted list compositions compare with each other as their places do. -/
theorem comparePair_eq_compare (sorted : ascending compositions.toList = true)
    (here : compositions[place]? = some one) (there : compositions[index]? = some other) :
    one.comparePair other.first other.second = compare place index := by
  -- Strict order makes the map from places to pairs monotone, so pairs compare as places do.
  rw [ascending_iff, List.pairwise_iff_getElem] at sorted
  obtain ⟨within, rfl⟩ := Array.getElem?_eq_some_iff.mp here
  obtain ⟨inside, rfl⟩ := Array.getElem?_eq_some_iff.mp there
  rcases Nat.lt_trichotomy place index with before | rfl | behind
  · rw [Nat.compare_eq_lt.mpr before]
    exact comparePair_lt_iff.mpr (sorted place index within inside before)
  · rw [Nat.compare_eq_eq.mpr rfl]
    exact comparePair_eq_iff.mpr ⟨rfl, rfl⟩
  · rw [Nat.compare_eq_gt.mpr behind]
    exact comparePair_of_precedes (sorted index place inside within behind)

/-- In a sorted list no pair has two places. -/
theorem place_unique (sorted : ascending compositions.toList = true)
    (here : compositions[place]? = some one) (there : compositions[index]? = some other)
    (first : one.first = other.first) (second : one.second = other.second) : place = index := by
  -- Equal pairs compare as equal, hence so do their places.
  have same := comparePair_eq_compare sorted here there
  rw [comparePair_eq_iff.mpr ⟨first, second⟩] at same
  exact Nat.compare_eq_eq.mp same.symm

/-- The composite of the first composition of a pair, from the front of a list on. -/
def scan (compositions : List Composition) (first second : CodePoint) : Option CodePoint :=
  (compositions.find? fun composition =>
    composition.first = first && composition.second = second).map Composition.composite

end Composition

namespace PropertyTable

open UniText.Composition

/-- A search finds a composition between its bounds by the pair that it is of. -/
theorem findPair_of_place {compositions : Array Composition}
    (sorted : ascending compositions.toList = true) {sought : Composition} {place low high : Nat}
    (there : compositions[place]? = some sought) (least : low ≤ place) (below : place < high)
    (inside : high ≤ compositions.size) :
    findPair compositions sought.first sought.second low high = some sought.composite := by
  -- The place stays between the bounds, which come closer to each other.
  fun_induction findPair compositions sought.first sought.second low high with
  | case1 low high some_ middle absent =>
    have beyond := Array.getElem?_eq_none_iff.mp absent
    omega
  | case2 low high some_ middle composition at_ same =>
    -- No other composition compares equal, since none has the same place.
    rw [comparePair_eq_compare sorted at_ there, Nat.compare_eq_eq] at same
    rw [same, there, Option.some.injEq] at at_
    rw [at_]
  | case3 low high some_ middle composition at_ less ih =>
    rw [comparePair_eq_compare sorted at_ there, Nat.compare_eq_lt] at less
    exact ih less below inside
  | case4 low high some_ middle composition at_ greater ih =>
    rw [comparePair_eq_compare sorted at_ there, Nat.compare_eq_gt] at greater
    exact ih least greater (by omega)
  | case5 low high none_ => omega

/-- A search through all of a sorted list finds just what is listed for the pair. -/
theorem findPair_eq_some_iff {compositions : Array Composition}
    (sorted : ascending compositions.toList = true) {first second composite : CodePoint} :
    findPair compositions first second 0 compositions.size = some composite ↔
      ⟨first, second, composite⟩ ∈ compositions := by
  refine ⟨mem_of_findPair, fun listed => ?_⟩
  obtain ⟨place, there⟩ := Array.mem_iff_getElem?.mp listed
  have within := (Array.getElem?_eq_some_iff.mp there).1
  -- At first the bounds take in every place of the list.
  exact findPair_of_place sorted there (Nat.zero_le _) within (Nat.le_refl _)

/-- Reading through a sorted list finds just what is listed for the pair. -/
theorem scan_eq_some_iff {compositions : Array Composition}
    (sorted : ascending compositions.toList = true) {first second composite : CodePoint} :
    scan compositions.toList first second = some composite ↔
      ⟨first, second, composite⟩ ∈ compositions := by
  constructor
  · intro read
    obtain ⟨found, search, rfl⟩ := Option.map_eq_some_iff.mp read
    have pair := List.find?_some search
    simp only [Bool.and_eq_true, decide_eq_true_eq] at pair
    obtain ⟨rfl, rfl⟩ := pair
    exact Array.mem_toList_iff.mp (List.mem_of_find?_eq_some search)
  · intro listed
    have some_ : (compositions.toList.find? fun composition =>
        composition.first = first && composition.second = second).isSome = true :=
      List.find?_isSome.mpr ⟨_, Array.mem_toList_iff.mpr listed, by simp⟩
    obtain ⟨found, search⟩ := Option.isSome_iff_exists.mp some_
    have pair := List.find?_some search
    simp only [Bool.and_eq_true, decide_eq_true_eq] at pair
    -- What is found first has the same place as what is listed for the pair.
    obtain ⟨place, here⟩ :=
      Array.mem_iff_getElem?.mp (Array.mem_toList_iff.mp (List.mem_of_find?_eq_some search))
    obtain ⟨index, there⟩ := Array.mem_iff_getElem?.mp listed
    obtain rfl := place_unique sorted here there pair.1 pair.2
    rw [here, Option.some.injEq] at there
    rw [scan, search, there, Option.map_some]

/-- The composite of a pair, by reading through some compositions from the front. -/
def composeByReading? (table : PropertyTable) (compositions : List Composition)
    (first second : CodePoint) : Option CodePoint :=
  match Hangul.join first second with
  | some syllable => some syllable
  | none =>
    (scan compositions first second).filter fun composite => !table.isExcluded composite

variable {table : PropertyTable}

/-- A pair that is not of a syllable composes to what the search finds, unless it is excluded. -/
theorem compose?_of_not_join {first second : CodePoint}
    (apart : Hangul.join first second = none) : table.compose? first second =
      (findPair table.compositions first second 0 table.compositions.size).filter fun composite =>
        !table.isExcluded composite := by
  -- Without a Hangul join, what is left is the search and the test for an excluded composite.
  simp only [compose?, apart]
  cases findPair table.compositions first second 0 table.compositions.size with
  | none => rfl
  | some composite => cases excluded : table.isExcluded composite <;> simp [Option.filter, excluded]

/-- The compositions of a loaded table are those of the data, in the same order. -/
theorem StoredIn.toList_compositions {bytes : List UInt8} (stored : table.StoredIn bytes) :
    table.compositions.toList
      = (Sections.read (Header.read bytes) (bytes.drop Header.width)).compositions := by
  -- The stored table is built from the sections read, and the pairs are taken over as they are.
  obtain ⟨-, -, -, -, records, -, -, rfl⟩ := stored
  rfl

/-- A pair composes to its syllable, or else to what the data lists for it and does not exclude.

No pair is listed twice, so that reading through the list from the front gives the same answer. -/
theorem compose?_iff_listed {bytes : List UInt8} (loaded : load bytes = .ok table)
    (first second : CodePoint) :
    let listed := (Sections.read (Header.read bytes) (bytes.drop Header.width)).compositions
    (∀ syllable, Hangul.join first second = some syllable →
      table.compose? first second = some syllable) ∧
    (Hangul.join first second = none → ∀ composite,
      table.compose? first second = some composite ↔
        ⟨first, second, composite⟩ ∈ listed ∧ table.isExcluded composite = false) ∧
    (∀ (place index : Nat) (one other : CodePoint),
      listed[place]? = some ⟨first, second, one⟩ → listed[index]? = some ⟨first, second, other⟩ →
        place = index) ∧
    table.compose? first second = table.composeByReading? listed first second := by
  obtain ⟨stored, -⟩ := load_eq_ok_iff.mp loaded
  have sorted := stored.references.2.2.2.1
  rw [← stored.toList_compositions]
  refine ⟨fun syllable joined => compose?_of_join joined, fun apart composite => ?_, ?_, ?_⟩
  · rw [compose?_of_not_join apart, Option.filter_eq_some_iff, findPair_eq_some_iff sorted,
      Array.mem_toList_iff, Bool.not_eq_true']
  · intro place index one other here there
    rw [Array.getElem?_toList] at here there
    exact place_unique sorted here there rfl rfl
  · unfold composeByReading?
    split
    · next syllable joined => exact compose?_of_join joined
    · next apart =>
      -- Both ways to search find what is listed.
      have same : findPair table.compositions first second 0 table.compositions.size
          = scan table.compositions.toList first second := by
        ext composite
        rw [findPair_eq_some_iff sorted, scan_eq_some_iff sorted]
      rw [compose?_of_not_join apart, same]

end PropertyTable

namespace Nukta

/-- The record of a letter that is composed of another one and the dot, and may be excluded. -/
def dotted (excluded : Bool) (offset : UInt16) : Record :=
  ⟨0, { Flags.empty with nfcNo := excluded, excluded }, .canonical, 2, offset⟩

/-- Letters that are composed of others and the dot below them. -/
def entries : List (CodePoint × Record) :=
  [(0x958, dotted true 0), (0x929, dotted false 2), (0x95F, dotted true 4)]

/-- Each letter is mapped to the letter without the dot, and the dot. -/
def mapping : List CodePoint := [0x915, 0x93C, 0x928, 0x93C, 0x92F, 0x93C]

/-- All pairs are listed, also those of excluded letters. -/
def compositions : List Composition :=
  [⟨0x915, 0x93C, 0x958⟩, ⟨0x928, 0x93C, 0x929⟩, ⟨0x92F, 0x93C, 0x95F⟩]

/-- The properties as a table. -/
def table : PropertyTable := Listed.table entries mapping compositions

/-- The properties can be stored. -/
theorem fits : Listed.Fits entries mapping compositions where
  -- The lists are short and closed, so each condition runs.
  inside := by decide
  few := by decide
  small := by decide
  mapped := by decide
  targets := by decide
  ascending := by decide
  composable := by decide

/-- The properties are loaded from their stored form. -/
theorem load_bytes :
    PropertyTable.load (Listed.bytes entries mapping compositions) = .ok table :=
  Listed.load_bytes fits (by decide)

/-- Each composite is excluded if its entry says so. -/
theorem isExcluded_eq (code : CodePoint) :
    table.isExcluded code = (Listed.recordOf entries code).flags.excluded := by
  rw [PropertyTable.isExcluded, table, Listed.record_eq fits]

/-- A letter takes in the dot, and another one does not, for the composite is excluded. -/
theorem compose?_iff_listed_nukta :
    PropertyTable.load (Listed.bytes entries mapping compositions) = .ok table ∧
      Hangul.join 0x928 0x93C = none ∧ table.compose? 0x928 0x93C = some 0x929 ∧
      Hangul.join 0x915 0x93C = none ∧ table.compose? 0x915 0x93C = none := by
  have listed := (PropertyTable.load_eq_ok_iff.mp load_bytes).1.toList_compositions
  have given : table.compositions.toList = compositions := by
    rw [table, Listed.compositions_eq]
  have apart : Hangul.join 0x928 0x93C = none ∧ Hangul.join 0x915 0x93C = none := by decide
  refine ⟨load_bytes, apart.1, ?_, apart.2, ?_⟩
  · obtain ⟨-, composed, -⟩ := PropertyTable.compose?_iff_listed load_bytes 0x928 0x93C
    rw [composed apart.1, ← listed, given, isExcluded_eq]
    decide
  · obtain ⟨-, composed, -⟩ := PropertyTable.compose?_iff_listed load_bytes 0x915 0x93C
    rw [Option.eq_none_iff_forall_ne_some]
    intro composite
    rw [Ne, composed apart.2, ← listed, given, isExcluded_eq]
    -- The pair is listed for its composite alone.
    rintro ⟨member, kept⟩
    obtain rfl : composite = 0x958 := by simpa [compositions] using member
    exact absurd kept (by decide)

end Nukta

end UniText
