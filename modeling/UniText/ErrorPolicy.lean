/-! What a conversion does about input that it cannot represent. -/

namespace UniText

/-- The treatment of ill-formed and unmappable input. -/
inductive ErrorPolicy where
  /-- The first such input ends the conversion. -/
  | strict
  /-- Each such input is replaced by a substitute. -/
  | substitute
  /-- As above, but surrogates without a partner are kept where they can be carried. -/
  | preserve
  deriving DecidableEq, Repr

namespace ErrorPolicy

/-- Conversions substitute unless they are told otherwise. -/
instance : Inhabited ErrorPolicy := ⟨substitute⟩

/-- The policy that a yes-or-no choice of strictness stands for. -/
def ofStrict (strict : Bool) : ErrorPolicy := if strict then .strict else .substitute

/-- The name of a policy. -/
def name : ErrorPolicy → String
  | strict => "Strict"
  | substitute => "Substitute"
  | preserve => "Preserve"

end ErrorPolicy

end UniText
