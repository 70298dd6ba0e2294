import UniText.Normalize.Basic

/-! Boundaries: places at which a text may be cut and its parts be normalized apart. -/

namespace UniText.PropertyTable

/-- Normalization never reaches across the place just before a code point. -/
def hasBoundaryBefore (table : PropertyTable) (form : Form) (code : CodePoint) : Bool :=
  if code < firstWithProperties then true
  else
    let record := table.record code
    if record.combiningClass ≠ 0 then false
    -- What a composing form leaves alone cannot be taken in by what is before it.
    else if form.isComposing then !(record.flags.no form || record.flags.maybe form)
    else
      -- A decomposing form has a boundary where marks cannot move across.
      match table.expand form.equivalence code with
      | [] => false
      | first :: _ => table.combiningClass first = 0

/-- The last boundary among some code points of which the first has a given index. -/
def lastBoundaryIn (table : PropertyTable) (form : Form) (index : Nat) :
    List CodePoint → Option Nat
  | [] => none
  | code :: rest =>
    -- A later boundary goes before an earlier one.
    match table.lastBoundaryIn form (index + 1) rest with
    | some later => some later
    | none => if table.hasBoundaryBefore form code then some index else none

/-- The last boundary at or after an index and not at the start of a text, or zero. -/
def lastBoundaryFrom (table : PropertyTable) (form : Form) (index : Nat)
    (source : List CodePoint) : Nat :=
  let first := max index 1
  -- The places before the index are known to have no boundary.
  (table.lastBoundaryIn form first (source.drop first)).getD 0

/-- The last boundary that is not at the start of a text, or zero. -/
def lastBoundary (table : PropertyTable) (form : Form) (source : List CodePoint) : Nat :=
  table.lastBoundaryFrom form 1 source

end UniText.PropertyTable
