/-! The two kinds of equivalence between sequences of characters. -/

namespace UniText

/-- The equivalence under which characters are taken apart. -/
inductive Equivalence where
  /-- Sequences that always look and behave alike. -/
  | canonical
  /-- Sequences of the same characters that may look different. -/
  | compatibility
  deriving DecidableEq, Repr

end UniText
