import UniText.Charset.Basic

/-! Finding a charset by one of its names. -/

namespace UniText.Charset

/-- What names are compared by: their ASCII letters and digits, in small letters. -/
def key (name : String) : List Char :=
  -- All other characters are passed over, so that spellings with other marks agree.
  (name.toList.filter Char.isAlphanum).map Char.toLower

/-- All names of a charset, the canonical one first. -/
def names (charset : Charset) : List String := charset.name :: charset.aliases

/-- The first charset with a name that agrees with the given one. -/
def ofName (name : String) : Except Fault Charset :=
  match all.find? fun charset => charset.names.any fun known => key known = key name with
  | some charset => .ok charset
  | none => .error .unsupportedCharset

/-- A charset answers to its canonical name. -/
@[simp] theorem ofName_name (charset : Charset) : ofName charset.name = .ok charset := by
  -- No charset that is looked up earlier has a name that agrees with it.
  cases charset <;> (try rename_i order; cases order) <;> rfl

end UniText.Charset
