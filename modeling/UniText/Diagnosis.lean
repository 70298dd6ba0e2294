import UniText.Fault

/-! Diagnoses: what went wrong, together with the place or the details that are known. -/

namespace UniText

/-- What a caller is told about a failure. -/
inductive Diagnosis where
  /-- Ill-formed code units, or a surrogate where a scalar value is required. -/
  | illegalSequence (offset : Option Nat)
  /-- The input ends inside a character. -/
  | truncatedInput (offset : Option Nat)
  /-- A code point has no form in the target charset. -/
  | unmappable (offset : Option Nat)
  /-- The destination is too short for the required number of units. -/
  | bufferTooSmall (required : Option Nat)
  /-- No charset goes by the given name. -/
  | unsupportedCharset
  /-- An argument lies outside what the call accepts. -/
  | illegalArgument
  /-- Property data belongs to another format or Unicode version. -/
  | incompatibleVersion (message : String)
  /-- Property data is corrupt. -/
  | invalidData (message : String)
  /-- Property data could not be read. -/
  | dataAccess (message : String)
  /-- A handle is closed or was never opened. -/
  | invalidHandle
  /-- A status that stands for no fault of this library. -/
  | other (status : Status)
  deriving DecidableEq, Repr

namespace Diagnosis

/-- The wording that places a failure in its input, empty when the place is unknown. -/
def place : Option Nat → String
  | some offset => s!" at offset {offset}"
  | none => ""

/-- The wording of a diagnosis. -/
def text : Diagnosis → String
  | illegalSequence offset => "illegal code unit sequence" ++ place offset
  | truncatedInput offset => "truncated character" ++ place offset
  | unmappable offset => "unmappable code point" ++ place offset
  | bufferTooSmall (some required) => s!"output buffer too small ({required} units required)"
  | bufferTooSmall none => "output buffer too small"
  | unsupportedCharset => "unsupported encoding"
  | illegalArgument => "illegal argument"
  | incompatibleVersion message => "incompatible data version: " ++ message
  | invalidData message => "invalid data: " ++ message
  | dataAccess message => "cannot read data: " ++ message
  | invalidHandle => "invalid handle"
  | other status => s!"error code {status.code.toInt}"

/-- The status that a diagnosis enlarges on. -/
def status : Diagnosis → Status
  | illegalSequence _ => .ofFault .illegalSequence
  | truncatedInput _ => .ofFault .truncatedInput
  | unmappable _ => .ofFault .unmappable
  | bufferTooSmall _ => .ofFault .bufferTooSmall
  | unsupportedCharset => .ofFault .unsupportedCharset
  | illegalArgument => .ofFault .illegalArgument
  | incompatibleVersion _ => .ofFault .incompatibleVersion
  | invalidData _ => .ofFault .invalidFormat
  | dataAccess _ => .ofFault .fileAccess
  | invalidHandle => .ofFault .invalidHandle
  | other status => status

/-- Where the offending input stands, for the diagnoses that have a place. -/
def offset : Diagnosis → Option Nat
  | illegalSequence offset | truncatedInput offset | unmappable offset => offset
  | _ => none

/-- The diagnosis of a fault, with a place for conversions and a message for data. -/
def ofFault (fault : Fault) (offset : Option Nat) (message : String) : Diagnosis :=
  match fault with
  | .illegalSequence => illegalSequence offset
  | .truncatedInput => truncatedInput offset
  | .unmappable => unmappable offset
  | .bufferTooSmall => bufferTooSmall none
  | .unsupportedCharset => unsupportedCharset
  | .illegalArgument => illegalArgument
  | .incompatibleVersion => incompatibleVersion message
  | .invalidFormat => invalidData message
  | .fileAccess => dataAccess message
  | .invalidHandle => invalidHandle

/-- The diagnosis of a status, with the same details. -/
def ofStatus (status : Status) (offset : Option Nat) (message : String) : Diagnosis :=
  -- A number that stands for no fault is passed on as it is.
  match status.fault? with
  | some fault => ofFault fault offset message
  | none => other status

/-- A diagnosis keeps the status it was made from. -/
@[simp] theorem status_ofStatus (code : Status) (offset : Option Nat) (message : String) :
    (ofStatus code offset message).status = code := by
  -- A known number names its fault, and each fault's diagnosis carries that fault's number.
  unfold ofStatus
  split
  · next fault known =>
    rw [Status.fault?_eq_some_iff.mp known]
    cases fault <;> rfl
  · rfl

end Diagnosis

end UniText
