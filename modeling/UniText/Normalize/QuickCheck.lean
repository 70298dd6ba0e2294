import UniText.Normalize.Basic

/-! Quick checks: telling from flags and classes alone whether a text is normalized. -/

namespace UniText.PropertyTable

/-- The quick check of what follows a code point of a given class, with the verdict so far. -/
def quickCheckFrom (table : PropertyTable) (form : Form) (verdict : Verdict)
    (lastClass : UInt8) : List CodePoint → Verdict
  | [] => verdict
  | code :: rest =>
    -- Code points without properties are starters that belong into every form.
    if code < firstWithProperties then table.quickCheckFrom form verdict 0 rest
    else
      let record := table.record code
      -- Marks out of order, or a code point that is ruled out, settle the matter.
      if record.combiningClass ≠ 0 && record.combiningClass < lastClass then .no
      else if record.flags.no form then .no
      else
        -- An undecided verdict is kept up to the end.
        let verdict := if record.flags.maybe form then .maybe else verdict
        table.quickCheckFrom form verdict record.combiningClass rest

/-- The quick check of a whole text. -/
def quickCheckText (table : PropertyTable) (form : Form) (source : List CodePoint) : Verdict :=
  table.quickCheckFrom form .yes 0 source

/-- A text is normalized; only an undecided quick check takes a normalization to tell. -/
def isNormalized (table : PropertyTable) (form : Form) (source : List CodePoint) : Bool :=
  match table.quickCheckText form source with
  | .yes => true
  | .no => false
  | .maybe => table.normalize form source = source

/-- The quick check of a text whose code points all lie in the code space. -/
def quickCheckChecked (table : PropertyTable) (form : Form) (source : List CodePoint) :
    Except Fault Verdict := do
  checkRange source
  return table.quickCheckText form source

/-- A text whose code points all lie in the code space is normalized. -/
def isNormalizedChecked (table : PropertyTable) (form : Form) (source : List CodePoint) :
    Except Fault Bool := do
  checkRange source
  return table.isNormalized form source

end UniText.PropertyTable
