import UniText.Converter.Fixed
import UniText.Normalize.QuickCheck
import UniText.Text.Scalars

/-! Normalization of UTF-16 and of strings. -/

namespace UniText.PropertyTable

/-- Normalizes UTF-16, in which surrogates without a partner stay as they are.

Should a normalized code point have no units, the units before it are the answer. -/
def normalizeUnits (table : PropertyTable) (form : Form) (units : List UInt16) : List UInt16 :=
  -- Decoding that preserves surrogates never fails.
  let text := (Utf16.decode .preserve units).output
  (Utf16.encode .preserve (table.normalize form text)).output

/-- Normalizes UTF-16 into a destination of fixed size. -/
def normalizeUnitsInto (table : PropertyTable) (form : Form) (dest units : List UInt16) :
    Written UInt16 :=
  .ofResult dest do
    let text ← (Utf16.decode .preserve units).outcome
    (Utf16.encode .preserve (table.normalize form text)).outcome

/-- Normalizes a string. -/
def normalizeText (table : PropertyTable) (form : Form) (text : String) : String :=
  textOf (table.normalize form (codePoints text))

end UniText.PropertyTable
