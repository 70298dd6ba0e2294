import UniText.Hangul
import UniText.Property.Table

/-! The primary composite of two code points. -/

namespace UniText.PropertyTable

/-- Searches a stretch of the sorted compositions for a pair. -/
def findPair (compositions : Array Composition) (first second : CodePoint) (low high : Nat) :
    Option CodePoint :=
  if low < high then
    let middle := low + (high - low) / 2
    -- Each comparison leaves one side of the middle to search.
    match compositions[middle]? with
    | none => none
    | some composition =>
      match composition.comparePair first second with
      | .eq => some composition.composite
      | .lt => findPair compositions first second (middle + 1) high
      | .gt => findPair compositions first second low middle
  else none
termination_by high - low

/-- The character that a pair composes to: a syllable, or a listed one that is not excluded. -/
def compose? (table : PropertyTable) (first second : CodePoint) : Option CodePoint :=
  -- Syllables are joined by arithmetic, and are not listed.
  match Hangul.join first second with
  | some syllable => some syllable
  | none =>
    match findPair table.compositions first second 0 table.compositions.size with
    | some composite => if table.isExcluded composite then none else some composite
    | none => none

end UniText.PropertyTable
