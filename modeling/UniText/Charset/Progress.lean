import UniText.Diagnosis

/-! The output of a conversion, kept up to the place where an error stopped it. -/

namespace UniText

/-- Where a conversion failed, and why. -/
structure CodecError where
  /-- The reason. -/
  fault : Fault
  /-- The index of the first offending unit. -/
  offset : Nat
  /-- The number of offending units. -/
  length : Nat
  deriving DecidableEq, Repr

namespace CodecError

/-- What a caller is told about a failed conversion. -/
def diagnosis (error : CodecError) : Diagnosis :=
  -- Conversions carry no message of their own, so a fault's general one serves.
  .ofFault error.fault (some error.offset) error.fault.message

end CodecError

/-- What a conversion has written, and the error that stopped it, if one did. -/
structure Progress (α : Type) where
  /-- Everything written before the error, or all there is. -/
  output : List α
  /-- The error that ended the conversion early. -/
  error : Option CodecError
  deriving DecidableEq, Repr

namespace Progress

variable {α : Type}

/-- A conversion that has nothing left to do. -/
def done : Progress α := ⟨[], none⟩

/-- A conversion that stops before it writes anything. -/
def stop (error : CodecError) : Progress α := ⟨[], some error⟩

/-- Output that comes before what a conversion writes later. -/
def before (written : List α) (later : Progress α) : Progress α :=
  ⟨written ++ later.output, later.error⟩

/-- The whole output of a conversion that no error stopped. -/
def result (progress : Progress α) : Except CodecError (List α) :=
  match progress.error with
  | some error => .error error
  | none => .ok progress.output

@[simp] theorem result_done : (done : Progress α).result = .ok [] := rfl

@[simp] theorem result_stop (error : CodecError) :
    (stop error : Progress α).result = .error error := rfl

/-- A conversion has a result exactly when no error stopped it. -/
theorem result_eq_ok_iff {progress : Progress α} {output : List α} :
    progress.result = .ok output ↔ progress = ⟨output, none⟩ := by
  obtain ⟨written, _ | error⟩ := progress <;> simp [result]

@[simp] theorem output_before (written : List α) (later : Progress α) :
    (later.before written).output = written ++ later.output := rfl

@[simp] theorem error_before (written : List α) (later : Progress α) :
    (later.before written).error = later.error := rfl

end Progress

end UniText
