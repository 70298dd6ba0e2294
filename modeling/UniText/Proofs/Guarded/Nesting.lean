import UniText.Proofs.Guarded.Parsing
import UniText.Proofs.Property.Lookup
import UniText.Proofs.Property.NestingLimit

/-! The search for the nesting depth of mappings, with every place, sum and call checked. -/

namespace UniText.PropertyTable

open Guarded

/-- The reason why a table is refused whose mappings nest too deep. -/
def tooDeep : DataError := .corrupt "decomposition mapping is cyclic or too deep"

/-- What becomes of a depth that does not fit into a byte. -/
inductive Overflow where
  /-- It is reduced to a byte. -/
  | wraps
  /-- It stops the search. -/
  | stops
  deriving DecidableEq, Repr

/-- The depth above another one. -/
def Overflow.above : Overflow → (below : UInt8) → Guarded UInt8
  | wraps, below => return below + 1
  | stops, below => byteSum .depth below 1

/-- The most calls of the search that may lie within each other. -/
def callLimit : Nat := 9

/-- The number of the record of a code point, which both stages are asked for. -/
def seekIndex (table : PropertyTable) (code : CodePoint) : Guarded Nat :=
  if CodePoint.last < code then return 0
  else do
    let block ← found table.stage1[code.toNat / blockSize]?
    let place ← sizeSum (block.toNat * blockSize) (code.toNat % blockSize)
    let index ← found table.stage2[place]?
    return index.toNat

/-- The mapping of a record, which is cut out of all mappings. -/
def seekMapping (table : PropertyTable) (record : Record) : Guarded (List CodePoint) := do
  let start := record.mappingOffset.toNat
  let stop ← sizeSum start record.mappingLength.toNat
  found (stretch? table.mapping.toList start stop)

/-- Stores the depth of a record. -/
def store (depths : Depths) (index : Nat) (depth : UInt8) : Guarded Depths :=
  if index < depths.size then return depths.setIfInBounds index depth else stopped .outside

/-- Finds the nesting depth of a code point by a search for that of its record. -/
def seekBelow (table : PropertyTable) (search : Nat → Depths → Guarded (UInt8 × Depths))
    (depths : Depths) (code : CodePoint) : Guarded (UInt8 × Depths) :=
  -- Syllables are taken apart without their records.
  if Hangul.isSyllable code then return (1, depths)
  else do
    let index ← table.seekIndex code
    search index depths

/-- The depth of a record so far, after one more code point of its mapping. -/
def deepenBy (table : PropertyTable) (overflow : Overflow)
    (search : Nat → Depths → Guarded (UInt8 × Depths)) (state : UInt8 × Depths)
    (code : CodePoint) : Guarded (UInt8 × Depths) := do
  let (below, depths) ← table.seekBelow search state.2 code
  let above ← overflow.above below
  return (max state.1 above, depths)

/-- Finds the nesting depth of a record on a level, with a number of calls left to make. -/
def seekDepth (table : PropertyTable) (overflow : Overflow) : (calls : Nat) → (level : UInt8) →
    (index : Nat) → Depths → Guarded (UInt8 × Depths)
  | 0, _, _, _ => stopped .calls
  | calls + 1, level, index, depths => do
    let depth ← found depths[index]?
    -- Zero is no depth, and stands for one that is not known yet.
    if depth ≠ 0 then return (depth, depths)
    check (level.toNat < depthLimit) tooDeep
    let record ← found table.records[index]?
    let codes ← table.seekMapping record
    -- A record without a mapping is one level deep.
    let (depth, depths) ← codes.foldlM (table.deepenBy overflow fun below depths => do
      let next ← byteSum .level level 1
      table.seekDepth overflow calls next below depths) (1, depths)
    return (depth, ← store depths index depth)

/-- Finds the nesting depths of a number of records, from a given one on. -/
def seekDepths (table : PropertyTable) (overflow : Overflow) (first : Nat) : (count : Nat) →
    Depths → Guarded Depths
  | 0, depths => return depths
  | count + 1, depths => do
    let (_, depths) ← table.seekDepth overflow callLimit 0 first depths
    table.seekDepths overflow (first + 1) count depths

/-- A record nests to a certain depth, neither deeper nor less deep. -/
def HasDepth (table : PropertyTable) (depth index : Nat) : Prop :=
  ∀ limit, table.NestsWithin limit index ↔ depth ≤ limit

/-- A record leads on to one that is as deep as a byte can tell. -/
def Overflows (table : PropertyTable) : Prop :=
  ∃ below index, table.LeadsTo below index ∧ table.HasDepth 255 below

/-- A guarded search does what the plain one does, unless a depth does not fit into a byte. -/
inductive Follows {α : Type} (table : PropertyTable) (overflow : Overflow) (holds : α → Prop) :
    Option α → Guarded α → Prop
  /-- Both find the same, of which something holds. -/
  | found {value : α} (held : holds value) :
    Follows table overflow holds (some value) (pure value)
  /-- Both give up. -/
  | refused : Follows table overflow holds none (free (.error tooDeep))
  /-- Only the guarded search is stopped, whatever the plain one does. -/
  | trapped {plain : Option α} (stops : overflow = .stops) (overflows : table.Overflows) :
    Follows table overflow holds plain (stopped .depth)

/-- The depths that a search has found are those that the records have, unless they may wrap. -/
structure Exact (table : PropertyTable) (overflow : Overflow) (depths : Depths) : Prop where
  size : depths.size = table.records.size
  known : overflow = .stops →
    ∀ index, Knows depths index → table.HasDepth (depths.getD index 0).toNat index

/-- A search has found the depth of a record. -/
structure Finds (table : PropertyTable) (overflow : Overflow) (index : Nat)
    (found : UInt8 × Depths) : Prop where
  depth : overflow = .stops → table.HasDepth found.1.toNat index
  depths : table.Exact overflow found.2

/-- A code point nests at most a number of levels deep, of which a syllable takes one. -/
def CodeNestsWithin (table : PropertyTable) (limit : Nat) (code : CodePoint) : Prop :=
  if Hangul.isSyllable code then 0 < limit else table.NestsWithin limit (table.recordIndex code)

/-- A depth is one level above the least limit within which something holds. -/
def LiesAbove (depth : UInt8) (holds : Nat → Prop) : Prop :=
  0 < depth.toNat ∧ ∀ limit, holds limit ↔ depth.toNat ≤ limit + 1

/-- The depth of a record so far lies above that of the code points of which something holds. -/
structure Reaches (table : PropertyTable) (overflow : Overflow) (holds : Nat → Prop)
    (state : UInt8 × Depths) : Prop where
  above : overflow = .stops → LiesAbove state.1 holds
  depths : table.Exact overflow state.2

variable {table : PropertyTable} {overflow : Overflow} {α β : Type} {holds : α → Prop}
  {holds' : β → Prop}

/-- Searches that follow each other step by step do so as a whole. -/
theorem Follows.bind {plain : Option α} {guarded : Guarded α} {next : α → Option β}
    {next' : α → Guarded β} (follows : table.Follows overflow holds plain guarded)
    (onward : ∀ value, holds value → table.Follows overflow holds' (next value) (next' value)) :
    table.Follows overflow holds' (plain >>= next) (guarded >>= next') := by
  -- Where the guarded run has trapped, nothing that comes after it matters.
  cases follows with
  | found held => exact onward _ held
  | refused => exact .refused
  | trapped stops overflows => exact .trapped stops overflows

/-- Something weaker may be said of what is found. -/
theorem Follows.imp {weaker : α → Prop} {plain : Option α} {guarded : Guarded α}
    (follows : table.Follows overflow holds plain guarded)
    (implies : ∀ value, holds value → weaker value) :
    table.Follows overflow weaker plain guarded := by
  -- Only a value that is found has to hold to anything.
  cases follows with
  | found held => exact .found (implies _ held)
  | refused => exact .refused
  | trapped stops overflows => exact .trapped stops overflows

/-- Both stages have what is looked up in them, and lead to a record that is there. -/
theorem StoredIn.seekIndex_eq {bytes : List UInt8} (stored : table.StoredIn bytes)
    (code : CodePoint) : table.seekIndex code = pure (table.recordIndex code) ∧
      table.recordIndex code < table.records.size := by
  by_cases beyond : CodePoint.last < code
  · rw [seekIndex, if_pos beyond, recordIndex, if_pos beyond]
    exact ⟨rfl, (Array.getElem?_eq_some_iff.mp stored.first).1⟩
  · -- Both stages were checked when the data was read.
    obtain ⟨blocks, indexes, -⟩ := stored.references
    obtain ⟨block, index, first, second, same⟩ :=
      exists_index_of_blocks stored.size_stage1 blocks (UInt32.not_lt.mp beyond)
    have small : block.toNat * blockSize + code.toNat % blockSize < 2 ^ 64 := by
      have few := block.toNat_lt
      have offset : code.toNat % blockSize < blockSize := Nat.mod_lt _ (by decide)
      rw [blockSize] at offset ⊢
      omega
    rw [seekIndex, if_neg beyond, first, found_some, pure_bind, sizeSum_of_lt small, pure_bind,
      second, found_some, pure_bind, same]
    exact ⟨rfl, indexes index (Array.mem_of_getElem? second)⟩

/-- The mapping of a record is a stretch that is there. -/
theorem StoredIn.seekMapping_eq {bytes : List UInt8} (stored : table.StoredIn bytes)
    {record : Record} (member : record ∈ table.records) :
    table.seekMapping record = pure (table.mappingOf record) := by
  -- The mapping of a stored record lies within the mappings that are stored.
  have within := (stored.mapped record member).1
  have offset := record.mappingOffset.toNat_lt
  have length := record.mappingLength.toNat_lt
  rw [seekMapping, sizeSum_of_lt (by omega), pure_bind, stretch?_of_le (by simpa using within),
    found_some, mappingOf, Array.toList_extract, List.extract_eq_take_drop,
    Nat.add_sub_cancel_left]

/-- A depth that fits into a byte is raised by one more code point of a mapping. -/
theorem LiesAbove.deepen {depth below : UInt8} {holds nests : Nat → Prop}
    (above : LiesAbove depth holds) (least : ∀ limit, nests limit ↔ below.toNat ≤ limit)
    (fits : below.toNat + (1 : UInt8).toNat < 0x100) :
    LiesAbove (max depth (below + 1)) fun limit => holds limit ∧ nests limit := by
  have sum : (below + 1).toNat = below.toNat + 1 := by
    rw [UInt8.toNat_add, Nat.mod_eq_of_lt fits, UInt8.toNat_one]
  obtain ⟨positive, highest⟩ := above
  -- The greater of the two depths is reached by both sides together.
  refine ⟨?_, fun limit => ?_⟩
  · rw [UInt8.toNat_max]
    omega
  · simp only [highest limit, least limit, UInt8.toNat_max, sum]
    omega

section Mapping

variable {bytes : List UInt8} {index levels : Nat}
  {search : Nat → Depths → Guarded (UInt8 × Depths)} {reached : Nat → Prop}
  {state : UInt8 × Depths}

/-- One more code point is looked at as in the plain search, if what lies below is. -/
theorem follows_deepenBy (stored : table.StoredIn bytes)
    (deeper : ∀ below depths, below < table.records.size → table.Exact overflow depths →
      table.Follows overflow (table.Finds overflow below) (table.depthOf levels below depths)
        (search below depths))
    {code : CodePoint} (member : code ∈ table.mappingOf (table.records.getD index .default))
    (reaches : table.Reaches overflow reached state) :
    table.Follows overflow
      (table.Reaches overflow fun limit => reached limit ∧ table.CodeNestsWithin limit code)
      (table.deepen levels state code) (table.deepenBy overflow search state code) := by
  have lower : table.Follows overflow (fun found : UInt8 × Depths =>
        (overflow = .stops → ∀ limit, table.CodeNestsWithin limit code ↔ found.1.toNat ≤ limit) ∧
          table.Exact overflow found.2)
      (if Hangul.isSyllable code then some (1, state.2)
        else table.depthOf levels (table.recordIndex code) state.2)
      (table.seekBelow search state.2 code) := by
    -- A syllable has its depth at once, and any other code point that of its record.
    unfold seekBelow CodeNestsWithin
    split
    · exact .found ⟨fun _ limit => Iff.rfl, reaches.depths⟩
    · obtain ⟨sought, within⟩ := stored.seekIndex_eq code
      rw [sought, pure_bind]
      exact (deeper _ _ within reaches.depths).imp fun _ found => ⟨found.depth, found.depths⟩
  rw [deepen, deepenBy, Option.map_eq_bind]
  refine lower.bind fun found held => ?_
  obtain ⟨below, depths⟩ := found
  obtain ⟨depth, kept⟩ := held
  simp only at depth kept
  cases overflow with
  | wraps =>
    -- Nothing is said of depths that may have been reduced.
    exact .found ⟨fun stops => by simp at stops, kept⟩
  | stops =>
    have depth := depth rfl
    simp only [Overflow.above, byteSum, Function.comp]
    split
    · next fits => exact .found ⟨fun _ => (reaches.above rfl).deepen depth fits, kept⟩
    · next full =>
      -- A depth that does not fit is one above the greatest byte, and that of no syllable.
      have greatest : below.toNat = 255 := by
        have small := below.toNat_lt
        rw [UInt8.toNat_one] at full
        omega
      have plain : Hangul.isSyllable code = false := by
        by_contra syllable
        have one := (depth 1).mp (by simp [CodeNestsWithin, syllable])
        omega
      refine .trapped rfl ⟨_, index, ⟨code, member, plain, rfl⟩, fun limit => ?_⟩
      simpa [CodeNestsWithin, plain, greatest] using depth limit

/-- The code points of a mapping are looked at one after the other as in the plain search. -/
theorem follows_foldlM (stored : table.StoredIn bytes)
    (deeper : ∀ below depths, below < table.records.size → table.Exact overflow depths →
      table.Follows overflow (table.Finds overflow below) (table.depthOf levels below depths)
        (search below depths))
    {codes : List CodePoint}
    (members : ∀ code ∈ codes, code ∈ table.mappingOf (table.records.getD index .default))
    (reaches : table.Reaches overflow reached state) :
    table.Follows overflow
      (table.Reaches overflow fun limit =>
        reached limit ∧ ∀ code ∈ codes, table.CodeNestsWithin limit code)
      (codes.foldlM (table.deepen levels) state)
      (codes.foldlM (table.deepenBy overflow search) state) := by
  induction codes generalizing reached state with
  | nil => exact .found (by simpa using reaches)
  | cons code codes ih =>
    obtain ⟨here, others⟩ := List.forall_mem_cons.mp members
    rw [List.foldlM_cons, List.foldlM_cons]
    -- What holds of the depth after one code point holds of it before the others.
    refine (follows_deepenBy stored deeper here reaches).bind fun next reaches => ?_
    simpa [and_assoc] using ih others reaches

end Mapping

/-- A depth above that of every code point of a mapping is the depth of its record. -/
theorem LiesAbove.hasDepth {depth : UInt8} {index : Nat}
    (above : LiesAbove depth fun limit =>
      ∀ code ∈ table.mappingOf (table.records.getD index .default),
        table.CodeNestsWithin limit code) : table.HasDepth depth.toNat index := by
  -- Nothing nests within no levels at all, and a depth is one level at least.
  intro limit
  obtain ⟨positive, least⟩ := above
  cases limit with
  | zero =>
    simp only [NestsWithin, false_iff]
    omega
  | succ limit => exact least limit

/-- A depth that is found exactly can be stored. -/
theorem Exact.set {depths : Depths} (faithful : table.Exact overflow depths) {index : Nat}
    {depth : UInt8} (found : overflow = .stops → table.HasDepth depth.toNat index) :
    table.Exact overflow (depths.setIfInBounds index depth) where
  size := by rw [Array.size_setIfInBounds, faithful.size]
  known stops other known := by
    by_cases same : other = index
    · -- What is stored is found there, unless there is no such place.
      subst same
      by_cases within : other < depths.size
      · simpa [Array.getD_eq_getD_getElem?, within] using found stops
      · simp [Knows, Array.getD_eq_getD_getElem?, within] at known
    · have kept := faithful.known stops other
      simp only [Knows, Array.getD_eq_getD_getElem?,
        Array.getElem?_setIfInBounds_ne (Ne.symm same)] at kept known ⊢
      exact kept known

/-- A known depth is found without a trap. -/
theorem seekDepth_of_knows {index : Nat} {depths : Depths} (known : Knows depths index)
    (within : index < depths.size) (table : PropertyTable) (calls : Nat) (level : UInt8) :
    table.seekDepth overflow (calls + 1) level index depths
      = pure (depths.getD index 0, depths) := by
  -- A depth that is known is looked up at once.
  have there : depths[index]? = some (depths.getD index 0) := by
    simp [Array.getD_eq_getD_getElem?, within]
  rw [seekDepth, there, found_some, pure_bind]
  exact if_pos known

/-- An unknown depth is searched along the mapping, if its level is below the limit. -/
theorem StoredIn.seekDepth_of_not_knows {bytes : List UInt8} (stored : table.StoredIn bytes)
    {index : Nat} {depths : Depths} (unknown : ¬Knows depths index)
    (within : index < table.records.size) (size : depths.size = table.records.size)
    (calls : Nat) (level : UInt8) :
    table.seekDepth overflow (calls + 1) level index depths = do
      check (level.toNat < depthLimit) tooDeep
      let (depth, depths) ← (table.mappingOf (table.records.getD index .default)).foldlM
        (table.deepenBy overflow fun below depths => do
          let next ← byteSum .level level 1
          table.seekDepth overflow calls next below depths) (1, depths)
      return (depth, ← store depths index depth) := by
  -- The record is there, so that its mapping is what is searched.
  have there : depths[index]? = some (depths.getD index 0) := by
    rw [← size] at within
    simp [Array.getD_eq_getD_getElem?, within]
  have record : table.records[index]? = some (table.records.getD index .default) := by
    simp [Array.getD_eq_getD_getElem?, within]
  rw [seekDepth, there, found_some, pure_bind, record]
  simp only [found_some, pure_bind, stored.seekMapping_eq (Array.mem_of_getElem? record)]
  exact if_neg unknown

/-- The search for the depth of a record does what the plain one does.

It never runs out of calls, since one level is left whenever a call is. -/
theorem follows_seekDepth {bytes : List UInt8} (stored : table.StoredIn bytes) {levels : Nat}
    {level : UInt8} (sum : level.toNat + levels = depthLimit) {index : Nat}
    (within : index < table.records.size) {depths : Depths}
    (faithful : table.Exact overflow depths) :
    table.Follows overflow (table.Finds overflow index) (table.depthOf levels index depths)
      (table.seekDepth overflow (levels + 1) level index depths) := by
  induction levels using Nat.strongRecOn generalizing level index depths with
  | ind levels ih =>
    by_cases known : Knows depths index
    · rw [depthOf_of_knows known, seekDepth_of_knows known (faithful.size ▸ within)]
      exact .found ⟨fun stops => faithful.known stops index known, faithful⟩
    · rw [stored.seekDepth_of_not_knows known within faithful.size]
      -- The level is tested where the plain search runs out of levels.
      cases levels with
      | zero =>
        -- The level that is tested is as high as the plain search goes.
        have high : decide (level.toNat < depthLimit) = false := by
          simpa using Nat.le_of_eq sum.symm
        have none : table.depthOf 0 index depths = none := by
          rw [depthOf]
          exact if_neg known
        rw [none, high]
        exact .refused
      | succ levels =>
        have low : decide (level.toNat < depthLimit) = true := by
          rw [decide_eq_true_eq]
          omega
        have fits : level.toNat + (1 : UInt8).toNat < 0x100 := by
          rw [depthLimit] at sum
          simp only [UInt8.toNat_one]
          omega
        have next : (level + 1).toNat = level.toNat + 1 := by
          rw [UInt8.toNat_add, Nat.mod_eq_of_lt fits, UInt8.toNat_one]
        rw [depthOf_of_not_knows known, low, check_true_bind, Option.map_eq_bind,
          byteSum_of_lt fits]
        -- Before its first code point a record lies on the lowest level.
        have lowest : table.Reaches overflow (fun _ => True) (1, depths) :=
          ⟨fun _ => ⟨Nat.one_pos, fun limit => by simp⟩, faithful⟩
        refine (follows_foldlM stored ?_ (fun _ => id) lowest).bind fun after reaches => ?_
        · -- One level higher there is one call less, and one level less to go.
          intro below depths within faithful
          rw [pure_bind]
          exact ih levels (by omega) (by omega) within faithful
        · obtain ⟨depth, after⟩ := after
          obtain ⟨above, kept⟩ := reaches
          simp only [true_and] at above kept
          simp only [store, kept.size, within, if_true, pure_bind, Function.comp]
          have found (stops : overflow = .stops) := (above stops).hasDepth
          exact .found ⟨found, kept.set found⟩

/-- The search through a number of records does what the plain one does.

What it finds are depths that fit into a byte. -/
theorem follows_seekDepths {bytes : List UInt8} (stored : table.StoredIn bytes) {first count : Nat}
    (within : first + count ≤ table.records.size) {depths : Depths}
    (faithful : table.Exact overflow depths) :
    table.Follows overflow (fun _ => overflow = .stops →
        ∀ index, first ≤ index → index < first + count → table.NestsWithin 255 index)
      (table.depthsFrom first count depths) (table.seekDepths overflow first count depths) := by
  induction count generalizing first depths with
  | zero => exact .found fun _ index least below => by omega
  | succ count ih =>
    have sum : (0 : UInt8).toNat + depthLimit = depthLimit := Nat.zero_add _
    rw [depthsFrom, seekDepths]
    refine (follows_seekDepth stored sum (by omega) faithful).bind fun found finds => ?_
    refine (ih (by omega) finds.depths).imp fun final others stops index least below => ?_
    -- The record is the one that was searched first, or one of those after it.
    by_cases same : index = first
    · exact same ▸ (finds.depth stops 255).mpr (Nat.le_of_lt_succ found.1.toNat_lt)
    · exact others stops index (by omega) (by omega)

/-- A record nests no deeper than a byte can tell, if it is none that has a mapping. -/
theorem nestsWithin_of_default {limit index : Nat}
    (plain : table.records.getD index .default = .default) :
    table.NestsWithin (limit + 1) index := by
  -- The default record has no mapping.
  intro code member
  rw [plain, mappingOf_default] at member
  simp at member

end UniText.PropertyTable
