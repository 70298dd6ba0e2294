import UniText.Hangul
import UniText.Property.Table

/-! Nesting of decomposition mappings: how many mappings follow each other. -/

namespace UniText.PropertyTable

/-- The most records that one search may enter below each other. -/
def depthLimit : Nat := 8

/-- The nesting depths found so far, one for each record, zero while it is unknown. -/
abbrev Depths := Array UInt8

/-- Finds the nesting depth of a record, with a number of levels left to enter.

A depth that is already known costs no level, and a depth beyond 255 is reduced to one byte. -/
def depthOf (table : PropertyTable) : (levels : Nat) → (index : Nat) → Depths →
    Option (UInt8 × Depths)
  | levels, index, depths =>
    let known := depths.getD index 0
    -- Every depth is one at least, and zero stands for one that is not known yet.
    if known ≠ 0 then some (known, depths)
    else match levels with
      | 0 => none
      | levels + 1 => do
        let record := table.records.getD index .default
        -- A record lies one level above the deepest record that its mapping leads to.
        let (depth, depths) ← (table.mappingOf record).foldlM (fun (depth, depths) code => do
          let (below, depths) ←
            if Hangul.isSyllable code then some (1, depths)
            else table.depthOf levels (table.recordIndex code) depths
          return (max depth (below + 1), depths)) ((1 : UInt8), depths)
        return (depth, depths.setIfInBounds index depth)

/-- Finds the nesting depths of a number of records, from a given one on. -/
def depthsFrom (table : PropertyTable) (first : Nat) : (count : Nat) → Depths → Option Depths
  | 0, depths => some depths
  | count + 1, depths => do
    -- What was found for one record is known to the next ones.
    let (_, depths) ← table.depthOf depthLimit first depths
    table.depthsFrom (first + 1) count depths

/-- Every mapping comes to an end, and no search for its depth went beyond the limit.

The records are searched in order, from the one after the default record on. -/
def nestsWithinLimit (table : PropertyTable) : Bool :=
  (table.depthsFrom 1 (table.records.size - 1) (Array.replicate table.records.size 0)).isSome

end UniText.PropertyTable
