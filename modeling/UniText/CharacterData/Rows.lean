import UniText.Text.Hexadecimal

/-! Character data as text: rows of hexadecimal numbers with semicolons between them. -/

namespace UniText.CharacterData

/-- What has been read of some rows, the latest part of each list being first. -/
structure RowReader where
  rows : List (List Nat)
  row : List Nat
  number : Option Nat

namespace RowReader

/-- Nothing has been read. -/
def start : RowReader := ⟨[], [], none⟩

/-- Ends the number that is being read, if there is one. -/
def endNumber (reader : RowReader) : RowReader :=
  { reader with row := reader.number.toList ++ reader.row, number := none }

/-- Ends the row that is being read. -/
def endRow (reader : RowReader) : RowReader :=
  let ended := reader.endNumber
  { ended with rows := ended.row.reverse :: ended.rows, row := [] }

/-- Reads one more character. -/
def read (reader : RowReader) (char : Char) : RowReader :=
  -- Whatever is neither a digit nor a semicolon ends a number.
  match hexValue? char with
  | some digit => { reader with number := some (reader.number.getD 0 * 16 + digit) }
  | none => if char = ';' then reader.endRow else reader.endNumber

end RowReader

/-- The rows of a text. -/
def rowsOf (text : String) : List (List Nat) :=
  (text.toList.foldl RowReader.read .start).endRow.rows.reverse

/-- The numbers from the first to the last of a row. -/
def rangeOf : List Nat → List Nat
  | [] => []
  | first :: rest => (List.range (rest.getLastD first + 1 - first)).map (first + ·)

example : rowsOf "0041; 0E01 0e02;" = [[0x41], [0xE01, 0xE02], []] := by decide +kernel

end UniText.CharacterData
