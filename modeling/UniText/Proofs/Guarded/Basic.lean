import Mathlib.Algebra.Group.Nat.Defs
import UniText.Property.Load

/-! Runs in which every place and every sum is checked for being within its range. -/

namespace UniText

/-- The sum of two sizes, if it fits into 64 bits. -/
def checkedSum (one another : Nat) : Option Nat :=
  if one + another < 2 ^ 64 then some (one + another) else none

/-- The product of two sizes, if it fits into 64 bits. -/
def checkedProduct (one another : Nat) : Option Nat :=
  if one * another < 2 ^ 64 then some (one * another) else none

/-- A stretch of a list, from a first place to the one behind its last. -/
def stretch? {α : Type} (values : List α) (first stop : Nat) : Option (List α) :=
  if first ≤ stop ∧ stop ≤ values.length then some ((values.drop first).take (stop - first))
  else none

section Ranges

variable {one another : Nat}

/-- A small sum is there. -/
theorem checkedSum_of_lt (small : one + another < 2 ^ 64) :
    checkedSum one another = some (one + another) := if_pos small

/-- A small product is there. -/
theorem checkedProduct_of_lt (small : one * another < 2 ^ 64) :
    checkedProduct one another = some (one * another) := if_pos small

/-- A stretch that ends within a list is there. -/
theorem stretch?_of_le {α : Type} {values : List α} {first length : Nat}
    (within : first + length ≤ values.length) :
    stretch? values first (first + length) = some ((values.drop first).take length) := by
  -- The end is not before the start, and it lies within the values.
  rw [stretch?, if_pos ⟨Nat.le_add_right .., within⟩, Nat.add_sub_cancel_left]

end Ranges

/-- How a run can leave the range of what it works with. -/
inductive Trap where
  /-- A place or a stretch lies outside of what is there. -/
  | outside
  /-- A sum of sizes does not fit into 64 bits. -/
  | size
  /-- A level of a search does not fit into a byte. -/
  | level
  /-- A depth does not fit into a byte. -/
  | depth
  /-- More calls lie within each other than there may be. -/
  | calls
  deriving DecidableEq, Repr

/-- A run that has a result or refuses its data, unless it is stopped by a trap. -/
abbrev Guarded := ExceptT DataError (Except Trap)

namespace Guarded

variable {α β : Type}

/-- A run that no trap stops. -/
def free (outcome : Except DataError α) : Guarded α := ExceptT.mk (.ok outcome)

/-- A run that a trap stops. -/
def stopped (trap : Trap) : Guarded α := ExceptT.mk (.error trap)

/-- What is looked up must be there. -/
def found : Option α → Guarded α
  | some value => pure value
  -- The run ends here, while wrong data would be refused with an error.
  | none => stopped .outside

/-- Data is refused unless a condition holds. -/
def check (condition : Bool) (otherwise : DataError) : Guarded Unit :=
  free (require condition otherwise)

/-- Data is refused unless it holds something known. -/
def known (value : Option α) (otherwise : DataError) : Guarded α :=
  free (value.elim (.error otherwise) .ok)

/-- The sum of two sizes must fit into 64 bits. -/
def sizeSum (one another : Nat) : Guarded Nat :=
  match checkedSum one another with
  | some sum => pure sum
  | none => stopped .size

/-- The sum of two bytes must fit into a byte. -/
def byteSum (trap : Trap) (one another : UInt8) : Guarded UInt8 :=
  if one.toNat + another.toNat < 0x100 then pure (one + another) else stopped trap

/-- A result comes without a trap. -/
theorem pure_eq_free (value : α) : (pure value : Guarded α) = free (.ok value) := rfl

/-- What follows a run without traps has none if every result leads on without one. -/
theorem free_bind {outcome : Except DataError α} {next : α → Guarded β}
    {plain : α → Except DataError β}
    (onward : ∀ value, outcome = .ok value → next value = free (plain value)) :
    free outcome >>= next = free (outcome >>= plain) := by
  cases outcome with
  -- Nothing follows data that is refused.
  | error error => rfl
  | ok value => exact onward value rfl

/-- What follows a run without traps may be handed something that is made of its result. -/
theorem free_bind_return {γ : Type} {outcome : Except DataError α} {make : α → γ}
    {next : γ → Guarded β} {plain : α → Except DataError β}
    (onward : ∀ value, outcome = .ok value → next (make value) = free (plain value)) :
    (free (do
      let value ← outcome
      return make value) >>= next) = free (outcome >>= plain) := by
  -- A refusal comes before anything that follows, on both sides.
  cases outcome with
  | error error => rfl
  | ok value => exact onward value rfl

/-- A check is free of traps, together with what follows it. -/
theorem check_bind_free (condition : Bool) (otherwise : DataError) (next : Except DataError α) :
    (check condition otherwise >>= fun _ => free next)
      = free (require condition otherwise >>= fun _ => next) :=
  -- Nothing is computed where the check refuses.
  free_bind fun _ _ => rfl

/-- A condition that holds lets a run go on. -/
@[simp] theorem check_true_bind (otherwise : DataError) (next : Unit → Guarded α) :
    check true otherwise >>= next = next () := rfl

/-- What is there is found. -/
@[simp] theorem found_some (value : α) : found (some value) = pure value := rfl

/-- What is known is accepted. -/
@[simp] theorem known_some (value : α) (otherwise : DataError) :
    known (some value) otherwise = pure value := rfl

/-- A small sum of sizes is no trap. -/
theorem sizeSum_of_lt {one another : Nat} (small : one + another < 2 ^ 64) :
    sizeSum one another = pure (one + another) := by
  rw [sizeSum, checkedSum_of_lt small]

/-- A small sum of bytes is no trap. -/
theorem byteSum_of_lt {one another : UInt8} (small : one.toNat + another.toNat < 0x100)
    (trap : Trap) : byteSum trap one another = pure (one + another) := if_pos small

end Guarded

end UniText
