import UniText.Fault

/-! The four normalization forms, and the verdicts of a quick check. -/

namespace UniText

/-- A normalization form. -/
inductive Form where
  /-- Canonical decomposition followed by canonical composition. -/
  | nfc
  /-- Canonical decomposition. -/
  | nfd
  /-- Compatibility decomposition followed by canonical composition. -/
  | nfkc
  /-- Compatibility decomposition. -/
  | nfkd
  deriving DecidableEq, Repr

namespace Form

/-- Every form, the canonical ones first. -/
def all : List Form := [nfc, nfd, nfkc, nfkd]

/-- A compatibility form also replaces characters by what they are compatible with. -/
def isCompatibility : Form → Bool
  | nfkc | nfkd => true
  | nfc | nfd => false

/-- A composing form joins characters again after taking them apart. -/
def isComposing : Form → Bool
  | nfc | nfkc => true
  | nfd | nfkd => false

/-- The name of a form. -/
def name : Form → String
  | nfc => "NFC"
  | nfd => "NFD"
  | nfkc => "NFKC"
  | nfkd => "NFKD"

/-- The form of a given name, in capital or small letters. -/
def ofName (name : String) : Except Fault Form :=
  -- Only ASCII letters have case here, so no other character turns into a name.
  match all.find? fun form => form.name.toList = name.toList.map Char.toUpper with
  | some form => .ok form
  | none => .error .illegalArgument

/-- A form answers to its own name. -/
@[simp] theorem ofName_name (form : Form) : ofName form.name = .ok form := by
  cases form <;> rfl

end Form

/-- What a quick check finds out. -/
inductive Verdict where
  /-- The text is certainly not in the form. -/
  | no
  /-- Only normalization can tell. -/
  | maybe
  /-- The text is certainly in the form. -/
  | yes
  deriving DecidableEq, Repr

end UniText
