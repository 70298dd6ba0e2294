import UniText.CodePoint

/-! Strings as sequences of scalar values. -/

namespace UniText

/-- The code points of a string, all of them scalar values. -/
def codePoints (text : String) : List CodePoint := text.toList.map Char.val

/-- The character with a given value, or the replacement character when there is none. -/
def charOf (code : CodePoint) : Char :=
  -- A valid number is exactly a scalar value.
  if valid : code.isValidChar then ⟨code, valid⟩ else '\uFFFD'

/-- The string that spells code points, with each value that is no scalar replaced. -/
def textOf (text : List CodePoint) : String := String.ofList (text.map charOf)

/-- Spelling the code points of a string gives the string back. -/
@[simp] theorem textOf_codePoints (text : String) : textOf (codePoints text) = text := by
  -- Every character is valid, so none is replaced.
  have same : charOf ∘ Char.val = id := by
    funext char
    simp [charOf, char.valid]
  simp [textOf, codePoints, same]

end UniText
