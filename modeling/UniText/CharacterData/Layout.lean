import UniText.CharacterData.Characters
import UniText.Property.Blob

/-! Laying characters out as stored sections, in which equal parts are stored once. -/

namespace UniText.CharacterData

/-- The properties that two characters must share to have the same record. -/
structure Properties where
  combiningClass : UInt8
  flags : UInt8
  kind : UInt8
  codes : List Nat
  deriving BEq, Hashable

/-- The sections as far as they have been laid out. -/
structure Layout where
  records : Array StoredRecord
  recordNumbers : Std.HashMap Properties UInt16
  mapping : Array CodePoint
  mappingOffsets : Std.HashMap (List Nat) UInt16
  stage1 : Array UInt16
  stage2 : Array UInt16
  blockNumbers : Std.HashMap (List UInt16) UInt16

namespace Layout

/-- The properties of the characters that normalization leaves alone. -/
def defaultProperties : Properties := ⟨0, 0, 0, []⟩

/-- Nothing is laid out but the default record. -/
def start : Layout where
  records := #[⟨0, 0, 0, 0, 0, 0⟩]
  recordNumbers := {(defaultProperties, 0)}
  mapping := #[]
  mappingOffsets := {([], 0)}
  stage1 := #[]
  stage2 := #[]
  blockNumbers := {}

/-- Finds the place of a mapping, adding it at the end if it is new. -/
def placeMapping (layout : Layout) (codes : List Nat) : UInt16 × Layout :=
  match layout.mappingOffsets[codes]? with
  | some offset => (offset, layout)
  | none =>
    let offset := UInt16.ofNat layout.mapping.size
    (offset, { layout with
      mapping := layout.mapping ++ codes.map UInt32.ofNat
      mappingOffsets := layout.mappingOffsets.insert codes offset })

/-- Finds the number of the record with given properties, adding it at the end if it is new. -/
def placeRecord (layout : Layout) (properties : Properties) : UInt16 × Layout :=
  match layout.recordNumbers[properties]? with
  | some number => (number, layout)
  | none =>
    let (offset, layout) := layout.placeMapping properties.codes
    let number := UInt16.ofNat layout.records.size
    let record := ⟨properties.combiningClass, properties.flags, properties.kind,
      UInt8.ofNat properties.codes.length, offset, 0⟩
    (number, { layout with
      records := layout.records.push record
      recordNumbers := layout.recordNumbers.insert properties number })

/-- Adds the next block of the code space, storing its record numbers if they are new. -/
def addBlock (layout : Layout) (block : List UInt16) : Layout :=
  match layout.blockNumbers[block]? with
  | some number => { layout with stage1 := layout.stage1.push number }
  | none =>
    let number := UInt16.ofNat (layout.stage2.size / blockSize)
    { layout with
      stage1 := layout.stage1.push number
      stage2 := layout.stage2 ++ block
      blockNumbers := layout.blockNumbers.insert block number }

/-- Lays out the block of the code space with a given number. -/
def addCharacters (propertiesOf : Nat → Properties) (layout : Layout) (number : Nat) : Layout :=
  let codes := (List.range blockSize).map (number * blockSize + ·)
  let (block, layout) := codes.foldl (fun (block, layout) code =>
    let (record, layout) := layout.placeRecord (propertiesOf code)
    (record :: block, layout)) ([], layout)
  layout.addBlock block.reverse

end Layout

namespace Facts

/-- The properties of a character, given which ones may join the one before them. -/
def propertiesOf (facts : Facts) (joining : Std.HashMap Nat Unit) (code : Nat) : Properties :=
  let mapping := (facts.mappings[code]?).getD ⟨.unmapped, []⟩
  ⟨facts.classOf code, (facts.flagsOf joining code).toByte, mapping.kind.toByte, mapping.codes⟩

/-- The sections that hold the properties of all characters. -/
def sections (facts : Facts) : Sections :=
  let propertiesOf := facts.propertiesOf facts.joining
  let layout := (List.range blockCount).foldl (Layout.addCharacters propertiesOf) .start
  { stage1 := layout.stage1.toList
    stage2 := layout.stage2.toList
    records := layout.records.toList
    mapping := layout.mapping.toList
    compositions := facts.compositions }

end Facts

end UniText.CharacterData
