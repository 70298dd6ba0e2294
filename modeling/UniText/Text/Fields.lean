/-! Splitting a text into the fields between separators. -/

namespace UniText

/-- The fields of a text, of which there is always one more than there are separators. -/
def fields (separator : Char) : List Char → List (List Char)
  | [] => [[]]
  | char :: rest =>
    -- A separator opens a new field, and any other character joins the field after it.
    if char = separator then [] :: fields separator rest
    else match fields separator rest with
      | [] => [[char]]
      | field :: others => (char :: field) :: others

/-- Each separator ends one field and begins another. -/
theorem length_fields (separator : Char) (text : List Char) :
    (fields separator text).length = text.count separator + 1 := by
  -- A character that separates nothing belongs to the first field, which is always there.
  induction text with
  | nil => rfl
  | cons char rest ih =>
    by_cases same : char = separator
    · simp [fields, same, ih]
    · simp only [fields, same, if_false]
      split
      · next empty => simp [empty] at ih
      · next field others split_rest =>
        simp [split_rest] at ih
        simp [ih, same]

end UniText
