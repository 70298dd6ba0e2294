/-! White space: the code points that may surround a field of text. -/

namespace UniText

/-- The ranges of the White_Space property, each with its first and last code point. -/
def blankRanges : List (Nat × Nat) :=
  [(0x0009, 0x000D), (0x0020, 0x0020), (0x0085, 0x0085), (0x00A0, 0x00A0), (0x1680, 0x1680),
    (0x2000, 0x200A), (0x2028, 0x2029), (0x202F, 0x202F), (0x205F, 0x205F), (0x3000, 0x3000)]

/-- A character is blank when one of the White_Space ranges holds it. -/
def isBlank (char : Char) : Bool :=
  blankRanges.any fun (first, last) => first ≤ char.toNat && char.toNat ≤ last

/-- A text without the blanks at its two ends. -/
def trimBlank (text : List Char) : List Char :=
  -- The end is reached by dropping from the front of the reversed text.
  ((text.dropWhile isBlank).reverse.dropWhile isBlank).reverse

end UniText
