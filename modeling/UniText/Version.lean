import UniText.Fault
import UniText.Text.Blank
import UniText.Text.Fields

/-! Versions of four components, and their written form. -/

namespace UniText

/-- A version, ordered component by component. -/
structure Version where
  major : UInt8
  minor : UInt8
  patch : UInt8
  build : UInt8
  deriving DecidableEq, Repr

namespace Version

/-- The version of Unicode that this library is written against. -/
def unicode : Version := ⟨14, 0, 0, 0⟩

/-- The four components, most significant first. -/
def parts (version : Version) : List UInt8 :=
  [version.major, version.minor, version.patch, version.build]

/-- The version that lists at most four components, the rest being zero. -/
def ofParts : List UInt8 → Version
  | major :: minor :: patch :: build :: _ => ⟨major, minor, patch, build⟩
  | [major, minor, patch] => ⟨major, minor, patch, 0⟩
  | [major, minor] => ⟨major, minor, 0, 0⟩
  | [major] => ⟨major, 0, 0, 0⟩
  | [] => ⟨0, 0, 0, 0⟩

/-- Versions are compared at the first component in which they differ. -/
def compare (left right : Version) : Ordering :=
  ((Ord.compare left.major right.major).then (Ord.compare left.minor right.minor)).then
    ((Ord.compare left.patch right.patch).then (Ord.compare left.build right.build))

/-- The components that are written: trailing zeros are left out, down to the first two. -/
def writtenParts (version : Version) : List UInt8 :=
  if version.build ≠ 0 then version.parts
  else if version.patch ≠ 0 then [version.major, version.minor, version.patch]
  else [version.major, version.minor]

/-- The components that are not written are those that reading fills in. -/
@[simp] theorem ofParts_writtenParts (version : Version) :
    ofParts version.writtenParts = version := by
  obtain ⟨major, minor, patch, build⟩ := version
  simp only [writtenParts]
  -- What is left out is zero.
  split
  · rfl
  · next last =>
    simp only [ne_eq, Decidable.not_not] at last
    split
    · simp [ofParts, last]
    · next third =>
      simp only [ne_eq, Decidable.not_not] at third
      simp [ofParts, last, third]

/-- The written form: decimal components with points between them. -/
def text (version : Version) : String :=
  ".".intercalate (version.writtenParts.map fun part => toString part.toNat)

/-- The value of a run of decimal digits, or nothing when it is empty or holds another character. -/
def digits? (text : List Char) : Option Nat :=
  -- Leading zeros are digits like any other.
  if text.isEmpty || !text.all Char.isDigit then none
  else some (text.foldl (fun value digit => value * 10 + (digit.toNat - '0'.toNat)) 0)

/-- One component: digits after at most one plus sign, between blanks, worth at most 255. -/
def part? (field : List Char) : Option UInt8 :=
  let trimmed := trimBlank field
  let unsigned := if trimmed.head? = some '+' then trimmed.tail else trimmed
  -- A value that needs more than one byte is refused, not reduced.
  match digits? unsigned with
  | some value => if value ≤ 255 then some (UInt8.ofNat value) else none
  | none => none

/-- Reads one to four components separated by points. -/
def parse (text : String) : Except Fault Version :=
  let written := fields '.' text.toList
  -- A fifth component is refused, whatever it holds.
  if 4 < written.length then .error .illegalArgument
  else match written.mapM part? with
    | some parts => .ok (ofParts parts)
    | none => .error .illegalArgument

end Version

end UniText
