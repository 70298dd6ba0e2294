import UniText.CodePoint
import UniText.Property.Record
import UniText.Version

/-! Property tables: the record of every code point, and the pairs that compose. -/

namespace UniText

/-- A pair of characters and the one that they compose to. -/
structure Composition where
  first : CodePoint
  second : CodePoint
  composite : CodePoint
  deriving DecidableEq, Repr

namespace Composition

/-- Compares a composition with a pair of characters, by the first and then by the second. -/
def comparePair (composition : Composition) (first second : CodePoint) : Ordering :=
  -- The second characters only matter between pairs with the same first one.
  (compare composition.first first).then (compare composition.second second)

end Composition

/-- The number of code points that share an entry of the first stage. -/
def blockSize : Nat := 64

/-- The number of blocks that make up the code space. -/
def blockCount : Nat := 0x110000 / blockSize

/-- Properties of all code points, found in two stages, with mappings and compositions. -/
structure PropertyTable where
  /-- The version of Unicode that the properties are of. -/
  version : Version
  /-- For each block of the code space, the number of a block of the second stage. -/
  stage1 : Array UInt16
  /-- For each code point of a block, the number of a record. -/
  stage2 : Array UInt16
  records : Array Record
  /-- All decomposition mappings, one after the other. -/
  mapping : Array CodePoint
  /-- The compositions, in the order of their pairs. -/
  compositions : Array Composition
  /-- The size of the data that the table was loaded from. -/
  dataLength : Nat
  deriving DecidableEq

namespace PropertyTable

/-- The number of the record of a code point; outside the code space it is zero. -/
def recordIndex (table : PropertyTable) (code : CodePoint) : Nat :=
  if CodePoint.last < code then 0
  else
    -- The first stage leads to a block, and the second to a record from within it.
    let block := (table.stage1.getD (code.toNat / blockSize) 0).toNat
    (table.stage2.getD (block * blockSize + code.toNat % blockSize) 0).toNat

/-- The record of a code point. -/
def record (table : PropertyTable) (code : CodePoint) : Record :=
  table.records.getD (table.recordIndex code) .default

/-- The canonical combining class of a code point. -/
def combiningClass (table : PropertyTable) (code : CodePoint) : UInt8 :=
  (table.record code).combiningClass

/-- The decomposition mapping that a record points to. -/
def mappingOf (table : PropertyTable) (record : Record) : List CodePoint :=
  let start := record.mappingOffset.toNat
  -- Loading has made sure that the stretch lies within the mappings.
  (table.mapping.extract start (start + record.mappingLength.toNat)).toList

/-- The quick check of a single code point. -/
def quickCheck (table : PropertyTable) (form : Form) (code : CodePoint) : Verdict :=
  let flags := (table.record code).flags
  -- A code point that is ruled out is not undecided as well.
  if flags.no form then .no else if flags.maybe form then .maybe else .yes

/-- The code point never results from canonical composition. -/
def isExcluded (table : PropertyTable) (code : CodePoint) : Bool :=
  (table.record code).flags.excluded

/-- A table written out by its version and its sizes. -/
def describe (table : PropertyTable) : String :=
  let parts := ", ".intercalate (table.version.parts.map fun part => toString part.toNat)
  "PropertyTable \x7b version: UVersionInfo([" ++ parts ++ "]), records: "
    ++ toString table.records.size ++ ", mapping: " ++ toString table.mapping.size
    ++ ", compositions: " ++ toString table.compositions.size ++ " \x7d"

end PropertyTable

end UniText
