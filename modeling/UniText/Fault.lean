/-! Faults, and the numbered status codes under which they are published. -/

namespace UniText

/-- A reason for which a conversion, a check or a load is refused. -/
inductive Fault where
  /-- An argument lies outside what the call accepts. -/
  | illegalArgument
  /-- Property data is corrupt. -/
  | invalidFormat
  /-- Property data could not be read. -/
  | fileAccess
  /-- A code point has no form in the target charset. -/
  | unmappable
  /-- The input ends inside a character. -/
  | truncatedInput
  /-- The input holds code units that form no character. -/
  | illegalSequence
  /-- The destination is shorter than the result. -/
  | bufferTooSmall
  /-- No charset goes by the given name. -/
  | unsupportedCharset
  /-- Property data belongs to another format or Unicode version. -/
  | incompatibleVersion
  /-- A handle is closed or was never opened. -/
  | invalidHandle
  deriving DecidableEq, Repr

namespace Fault

/-- Every fault, in the order of the published codes. -/
def all : List Fault :=
  [illegalArgument, invalidFormat, fileAccess, unmappable, truncatedInput, illegalSequence,
    bufferTooSmall, unsupportedCharset, incompatibleVersion, invalidHandle]

/-- The number under which a fault is published. -/
def code : Fault → Int32
  | illegalArgument => 1
  | invalidFormat => 3
  | fileAccess => 4
  | unmappable => 10
  | truncatedInput => 11
  | illegalSequence => 12
  | bufferTooSmall => 15
  | unsupportedCharset => 16
  | incompatibleVersion => 17
  | invalidHandle => 27

/-- The symbolic name of a fault. -/
def name : Fault → String
  | illegalArgument => "U_ILLEGAL_ARGUMENT_ERROR"
  | invalidFormat => "U_INVALID_FORMAT_ERROR"
  | fileAccess => "U_FILE_ACCESS_ERROR"
  | unmappable => "U_INVALID_CHAR_FOUND"
  | truncatedInput => "U_TRUNCATED_INPUT"
  | illegalSequence => "U_ILLEGAL_SEQUENCE"
  | bufferTooSmall => "U_BUFFER_TOO_SMALL"
  | unsupportedCharset => "U_UNSUPPORTED_ENCODING"
  | incompatibleVersion => "U_INCOMPATIBLE_DATA_VERSION"
  | invalidHandle => "U_INVALID_HANDLE"

/-- A sentence fragment that explains a fault to a reader. -/
def message : Fault → String
  | illegalArgument => "illegal argument"
  | invalidFormat => "data file has an invalid format"
  | fileAccess => "data file could not be read"
  | unmappable => "code point is not mappable in the target charset"
  | truncatedInput => "input ends inside a character"
  | illegalSequence => "illegal code unit sequence"
  | bufferTooSmall => "output buffer is too small"
  | unsupportedCharset => "unsupported encoding"
  | incompatibleVersion => "data version is incompatible with this library"
  | invalidHandle => "handle is closed or was never opened"

/-- The list of faults leaves none out. -/
theorem mem_all (fault : Fault) : fault ∈ all := by
  -- Each constructor is one entry of the list.
  cases fault <;> simp [all]

end Fault

/-- A numbered outcome: positive for a fault, zero for success, negative for a warning. -/
structure Status where
  /-- The published number. -/
  code : Int32
  deriving DecidableEq, Repr

namespace Status

/-- The outcome of a call that did all it was asked to. -/
def success : Status := ⟨0⟩

/-- The outcome of a call that a fault ended. -/
def ofFault (fault : Fault) : Status := ⟨fault.code⟩

/-- The fault that a status stands for, when its number belongs to one. -/
def fault? (status : Status) : Option Fault :=
  -- The numbers are distinct, so the first match is the only one.
  Fault.all.find? fun fault => fault.code = status.code

/-- A call succeeded when its status is zero or a warning. -/
def isSuccess (status : Status) : Bool := status.code ≤ 0

/-- A call failed when its status is positive. -/
def isFailure (status : Status) : Bool := 0 < status.code

/-- The symbolic name of a status, or a bracketed remark for a number that has none. -/
def name (status : Status) : String :=
  -- Numbers without a name still tell warnings from errors by their sign.
  if status = success then "U_ZERO_ERROR"
  else match status.fault? with
    | some fault => fault.name
    | none => if status.code < 0 then "[BOGUS UWarningCode]" else "[BOGUS UErrorCode]"

/-- The explanation that goes with a status. -/
def message (status : Status) : String :=
  if status = success then "no error"
  else match status.fault? with
    | some fault => fault.message
    | none => "unknown error"

/-- The number of a fault leads back to that fault alone. -/
@[simp] theorem fault?_ofFault (fault : Fault) : (ofFault fault).fault? = some fault := by
  -- The ten numbers are pairwise distinct.
  cases fault <;> decide

/-- A status stands for a fault exactly when it carries that fault's number. -/
theorem fault?_eq_some_iff {status : Status} {fault : Fault} :
    status.fault? = some fault ↔ status = ofFault fault := by
  constructor
  · -- The search answers with an entry whose number is the one asked for.
    intro found
    have same := List.find?_some found
    simp only [decide_eq_true_eq] at same
    cases status
    simp only [ofFault, Status.mk.injEq]
    exact same.symm
  · rintro rfl
    exact fault?_ofFault fault

end Status

end UniText
