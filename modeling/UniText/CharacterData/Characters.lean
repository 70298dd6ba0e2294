import Std.Data.HashMap
import UniText.CharacterData.Canonical
import UniText.CharacterData.CombiningClasses
import UniText.CharacterData.Compatible
import UniText.CharacterData.Exclusions
import UniText.CharacterData.Fonts
import UniText.CharacterData.Layouts
import UniText.CharacterData.Rows
import UniText.CharacterData.Shapes
import UniText.Hangul
import UniText.Property.Table

/-! Characters: what their mappings and classes imply for normalization. -/

namespace UniText.CharacterData

/-- A decomposition mapping with its kind. -/
structure Mapping where
  kind : DecompositionKind
  codes : List Nat

/-- The facts about characters that all else follows from. -/
structure Facts where
  classes : Std.HashMap Nat UInt8
  mappings : Std.HashMap Nat Mapping
  exclusions : Std.HashMap Nat Unit

/-- The texts of all mappings, by their kinds. -/
def mappingTexts : List (DecompositionKind × String) :=
  [(.canonical, canonicalRows), (.compatible, compatibleRows), (.circle, circleRows),
    (.final, finalRows), (.font, fontRows), (.fraction, fractionRows), (.initial, initialRows),
    (.isolated, isolatedRows), (.medial, medialRows), (.narrow, narrowRows),
    (.noBreak, noBreakRows), (.small, smallRows), (.square, squareRows),
    (.subscript, subscriptRows), (.superscript, superscriptRows), (.vertical, verticalRows),
    (.wide, wideRows)]

/-- The mappings of one kind. -/
def mappingsOf (kind : DecompositionKind) (text : String) : List (Nat × Mapping) :=
  (rowsOf text).filterMap fun row =>
    -- The first number of a row is the character itself.
    match row with
    | [] => none
    | code :: codes => some (code, ⟨kind, codes⟩)

/-- The characters of some rows, each of which holds a character or a range. -/
def charactersIn (text : String) : List Nat := (rowsOf text).flatMap rangeOf

/-- The facts about all characters. -/
def facts : Facts where
  classes := .ofList <| classRows.flatMap fun (markClass, text) =>
    (charactersIn text).map fun code => (code, UInt8.ofNat markClass)
  mappings := .ofList <| mappingTexts.flatMap fun (kind, text) => mappingsOf kind text
  exclusions := .ofList <| (charactersIn exclusionRows).map fun code => (code, ())

namespace Facts

/-- The combining class of a character. -/
def classOf (facts : Facts) (code : Nat) : UInt8 := facts.classes.getD code 0

/-- The canonical mapping of a character, if it has one. -/
def canonical? (facts : Facts) (code : Nat) : Option (List Nat) :=
  match facts.mappings[code]? with
  | some ⟨.canonical, codes⟩ => some codes
  | _ => none

/-- A canonical mapping is not undone by composition.

This is so for single characters, for mappings that begin or belong to a mark, and by listing. -/
def isExcluded (facts : Facts) (code : Nat) : Bool :=
  match facts.canonical? code with
  | some codes =>
    codes.length = 1 || facts.classOf code ≠ 0 || facts.classOf (codes.headD 0) ≠ 0
      || facts.exclusions.contains code
  | none => false

/-- The canonical decomposition of a character through at most a given number of mappings. -/
def expandWithin (facts : Facts) : (limit : Nat) → Nat → List Nat
  | 0, code => [code]
  | limit + 1, code =>
    match facts.canonical? code with
    | some codes => codes.flatMap (facts.expandWithin limit)
    | none => [code]

/-- A character has a mapping that only compatibility admits. -/
def isCompatible (facts : Facts) (code : Nat) : Bool :=
  facts.mappings.contains code && (facts.canonical? code).isNone

/-- A character does not occur in a text that is composed under compatibility. -/
def isCompatibilityExcluded (facts : Facts) (code : Nat) : Bool :=
  -- Canonical mappings follow each other four times at most.
  facts.isExcluded code || (facts.expandWithin 8 code).any facts.isCompatible

/-- The pairs that compose, in their order. -/
def compositions (facts : Facts) : List Composition :=
  let pairs := facts.mappings.toList.filterMap fun (code, mapping) =>
    match mapping with
    | ⟨.canonical, [first, second]⟩ =>
      if facts.isExcluded code then none
      else some ⟨UInt32.ofNat first, UInt32.ofNat second, UInt32.ofNat code⟩
    | _ => none
  -- The order of the pairs settles in which order the facts were listed.
  pairs.mergeSort fun left right => left.comparePair right.first right.second ≠ .gt

/-- The characters that may join the one before them: second ones of pairs, and letters. -/
def joining (facts : Facts) : Std.HashMap Nat Unit :=
  let seconds := facts.compositions.map fun composition => composition.second.toNat
  let vowels := (List.range Hangul.vowelCount).map (Hangul.firstVowel + ·)
  let trailing := (List.range (Hangul.trailingCount - 1)).map (Hangul.noTrailing + 1 + ·)
  .ofList <| (seconds ++ vowels ++ trailing).map fun code => (code, ())

/-- The flags of a character, given which ones may join the one before them. -/
def flagsOf (facts : Facts) (joining : Std.HashMap Nat Unit) (code : Nat) : Flags :=
  let syllable := Hangul.isSyllable (UInt32.ofNat code)
  let excluded := facts.isExcluded code
  let compatibilityExcluded := facts.isCompatibilityExcluded code
  let joins := joining.contains code
  -- What is ruled out is not undecided as well.
  { nfdNo := (facts.canonical? code).isSome || syllable
    nfkdNo := facts.mappings.contains code || syllable
    nfcNo := excluded
    nfcMaybe := joins && !excluded
    nfkcNo := compatibilityExcluded
    nfkcMaybe := joins && !compatibilityExcluded
    excluded := excluded }

end Facts

end UniText.CharacterData
