import UniText.CodePoint
import UniText.ErrorPolicy
import UniText.Fault

/-! Decoding steps: what stands at the front of a run of code units. -/

namespace UniText

/-- What the front of the input turns out to be. -/
inductive Decoded where
  /-- A scalar value. -/
  | scalar (code : CodePoint)
  /-- A surrogate without a partner. -/
  | surrogate (code : CodePoint)
  /-- A maximal run of units that begins no character. -/
  | illegal
  /-- The input ends inside a character, and no more will follow. -/
  | truncated
  /-- The input ends inside a character, which more input may complete. -/
  | incomplete
  deriving DecidableEq, Repr

namespace Decoded

/-- The code point that a policy puts in the place of what was decoded. -/
def resolve (policy : ErrorPolicy) : Decoded → Except Fault CodePoint
  | scalar code => .ok code
  | surrogate code =>
    -- Only a surrogate makes a difference between the two lenient policies.
    match policy with
    | .strict => .error .illegalSequence
    | .substitute => .ok CodePoint.replacement
    | .preserve => .ok code
  | illegal => if policy = .strict then .error .illegalSequence else .ok CodePoint.replacement
  | truncated | incomplete =>
    if policy = .strict then .error .truncatedInput else .ok CodePoint.replacement

end Decoded

/-- One decoding step: what was found, and how many units it covers. -/
structure Step where
  /-- What the units stand for. -/
  decoded : Decoded
  /-- The number of units, zero when the step waits for more input. -/
  length : Nat
  deriving DecidableEq, Repr

namespace Step

/-- The step of an input that ends inside a character, after a number of its units. -/
def cutOff (atEnd : Bool) (length : Nat) : Step :=
  -- Without the end in sight, the units stay where they are.
  if atEnd then ⟨.truncated, length⟩ else ⟨.incomplete, 0⟩

/-- The number of units that a conversion moves on by, which is never zero. -/
def advance (step : Step) : Nat := max step.length 1

/-- A conversion always moves on. -/
theorem advance_pos (step : Step) : 0 < step.advance := by
  simp only [advance]
  omega

end Step

end UniText
