import UniText.Equivalence
import UniText.Hangul
import UniText.Property.Table

/-! Decompositions of single code points, by one step or as far as they go. -/

namespace UniText.PropertyTable

/-- The mapping of a record, if it has one that an equivalence admits. -/
def mapping? (table : PropertyTable) (equivalence : Equivalence) (record : Record) :
    Option (List CodePoint) :=
  -- Canonical equivalence admits canonical mappings only, compatibility admits all.
  if record.mappingLength ≠ 0 && (equivalence = .compatibility || record.kind = .canonical) then
    some (table.mappingOf record)
  else none

/-- The kind of decomposition that a code point has. -/
def decompositionKind (table : PropertyTable) (code : CodePoint) : DecompositionKind :=
  -- Syllables decompose by arithmetic, whatever their records say.
  if Hangul.isSyllable code then .canonical else (table.record code).kind

/-- One step of the decomposition of a code point, if it has one. -/
def decomposeOnce? (table : PropertyTable) (equivalence : Equivalence) (code : CodePoint) :
    Option (List CodePoint) :=
  if Hangul.isSyllable code then
    let (first, second) := Hangul.split code
    some [first, second]
  else table.mapping? equivalence (table.record code)

/-- The decomposition of a code point through at most a given number of mappings in a row. -/
def expandWithin (table : PropertyTable) (equivalence : Equivalence) :
    (limit : Nat) → CodePoint → List CodePoint
  | 0, code => [code]
  | limit + 1, code =>
    -- Syllables are taken apart at once, without the table.
    if Hangul.isSyllable code then Hangul.letters code
    else match table.mapping? equivalence (table.record code) with
      | some codes => codes.flatMap (expandWithin table equivalence limit)
      | none => [code]

/-- The full decomposition of a code point, which is the code point itself if it has none.

Mappings that refer to each other without a cycle pass through each record once at most. -/
def expand (table : PropertyTable) (equivalence : Equivalence) (code : CodePoint) :
    List CodePoint :=
  -- No chain of mappings is longer than the list of records.
  table.expandWithin equivalence table.records.size code

/-- The full decomposition of a code point that decomposes. -/
def decomposeFully? (table : PropertyTable) (equivalence : Equivalence) (code : CodePoint) :
    Option (List CodePoint) :=
  -- Syllables always decompose, and other code points if they have a mapping.
  if !Hangul.isSyllable code && (table.mapping? equivalence (table.record code)).isNone then none
  else some (table.expand equivalence code)

end UniText.PropertyTable
