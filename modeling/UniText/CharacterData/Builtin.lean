import UniText.CharacterData.Layout
import UniText.Property.Load

/-! The built-in property data, and the table that is loaded from it. -/

namespace UniText

/-- The built-in property data in its stored form. -/
def builtinData : List UInt8 := CharacterData.facts.sections.store Version.unicode

/-- The table that the built-in data holds. -/
def builtinTable : Except DataError PropertyTable := PropertyTable.load builtinData

/-- How loading the built-in data went. -/
def builtinStatus : Status :=
  match builtinTable with
  | .ok _ => .success
  | .error error => error.status

end UniText
