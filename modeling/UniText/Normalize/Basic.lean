import UniText.Normalize.Composing
import UniText.Normalize.Ordering

/-! Normalization of whole texts. -/

namespace UniText

/-- The equivalence under which a form takes characters apart. -/
def Form.equivalence (form : Form) : Equivalence :=
  if form.isCompatibility then .compatibility else .canonical

namespace PropertyTable

/-- Appends the normalization of a source to a text. -/
def normalizeOnto (table : PropertyTable) (form : Form) (text source : List CodePoint) :
    List CodePoint :=
  -- A composing form joins again what the decomposition took apart.
  if form.isComposing then
    table.composeOnto text (table.decomposeOnto form.equivalence [] source)
  else table.decomposeOnto form.equivalence text source

/-- The normalization of a source. -/
def normalize (table : PropertyTable) (form : Form) (source : List CodePoint) : List CodePoint :=
  table.normalizeOnto form [] source

/-- The code points of a source all lie in the code space. -/
def checkRange (source : List CodePoint) : Except Fault Unit :=
  -- Surrogates are let through, since normalization leaves them alone.
  if source.any (CodePoint.last < ·) then .error .illegalSequence else .ok ()

/-- A source passes the check exactly when it holds no value outside the code space. -/
theorem checkRange_eq_ok_iff {source : List CodePoint} :
    checkRange source = .ok () ↔ ∀ code ∈ source, code ≤ CodePoint.last := by
  simp only [checkRange]
  split
  · next outside =>
    obtain ⟨code, member, beyond⟩ := List.any_eq_true.mp outside
    -- The value that was found contradicts the bound on all of them.
    simp only [decide_eq_true_eq] at beyond
    simp only [reduceCtorEq, false_iff]
    intro bounded
    exact absurd (bounded code member) (UInt32.not_le.mpr beyond)
  · next inside =>
    simp only [List.any_eq_true, decide_eq_true_eq, not_exists, not_and, UInt32.not_lt] at inside
    simpa using inside

/-- The normalization of a source whose code points all lie in the code space. -/
def normalizeChecked (table : PropertyTable) (form : Form) (source : List CodePoint) :
    Except Fault (List CodePoint) := do
  checkRange source
  return table.normalize form source

end PropertyTable

end UniText
