import Mathlib.Data.List.TakeWhile
import UniText.Text.Blank
import UniText.Text.Fields

/-! Fields are what lies between separators, and trimming leaves what lies between blanks. -/

namespace UniText

/-- The fields of a text are the parts that it splits into. -/
theorem fields_eq_splitOn (separator : Char) (text : List Char) :
    fields separator text = text.splitOn separator := by
  -- Both open a part at each separator, and put any other character at the front of the next part.
  induction text with
  | nil => rfl
  | cons char rest ih =>
    rw [fields, List.splitOn_cons_eq_if_modifyHead, ih]
    by_cases same : char = separator
    · rw [if_pos same, if_pos (by simp [same])]
    · rw [if_neg same, if_neg (by simp [same])]
      -- There is always a part to which the character can be added.
      cases parts : rest.splitOn separator with
      | nil => exact absurd parts (List.splitOn_ne_nil separator rest)
      | cons field others => rfl

/-- No field holds the separator. -/
theorem not_mem_of_mem_fields {separator : Char} {text field : List Char}
    (member : field ∈ fields separator text) : separator ∉ field := by
  induction text generalizing field with
  | nil =>
    rw [fields, List.mem_singleton] at member
    rw [member]
    exact List.not_mem_nil
  | cons char rest ih =>
    rw [fields] at member
    split at member
    · -- An empty field is put before the others.
      rcases List.mem_cons.mp member with rfl | later
      · exact List.not_mem_nil
      · exact ih later
    · next other =>
      split at member
      · -- There is nothing in the only field but the character itself.
        simp only [List.mem_singleton] at member
        simpa [member] using Ne.symm other
      · next first others parts =>
        -- The character comes into the first field, and it is no separator itself.
        rw [parts] at ih
        rcases List.mem_cons.mp member with rfl | later
        · have behind := ih (List.mem_cons_self ..)
          simpa [behind] using Ne.symm other
        · exact ih (List.mem_cons_of_mem _ later)

/-- The fields of a text are the only parts without the separator that make up the text with
separators between them. -/
theorem fields_eq_iff {separator : Char} {text : List Char} {written : List (List Char)} :
    fields separator text = written ↔ written ≠ [] ∧
      (∀ field ∈ written, separator ∉ field) ∧ [separator].intercalate written = text := by
  constructor
  · rintro rfl
    refine ⟨?_, fun field member => not_mem_of_mem_fields member, ?_⟩
    · rw [fields_eq_splitOn]
      exact List.splitOn_ne_nil separator text
    · rw [fields_eq_splitOn]
      exact List.intercalate_splitOn separator
  · -- Splitting what was joined gives the parts back.
    rintro ⟨nonempty, apart, rfl⟩
    rw [fields_eq_splitOn]
    exact List.splitOn_intercalate separator apart nonempty

/-- Dropping blanks from the front leaves what follows a stretch of blanks. -/
theorem exists_blanks (text : List Char) :
    ∃ before, text = before ++ text.dropWhile isBlank ∧ ∀ char ∈ before, isBlank char = true :=
  ⟨text.takeWhile isBlank, List.takeWhile_append_dropWhile.symm,
    fun _ member => List.mem_takeWhile_imp member⟩

/-- Trimming leaves a text without blanks exactly where only blanks surround it. -/
theorem trimBlank_eq_iff {text solid : List Char}
    (filled : ∀ char ∈ solid, isBlank char = false) : trimBlank text = solid ↔
      ∃ before after, text = before ++ solid ++ after ∧
        (∀ char ∈ before, isBlank char = true) ∧ ∀ char ∈ after, isBlank char = true := by
  constructor
  · rintro rfl
    -- The blanks in front go first, and then those at the end go from the reversed text.
    obtain ⟨before, front, blankBefore⟩ := exists_blanks text
    obtain ⟨after, back, blankAfter⟩ := exists_blanks (text.dropWhile isBlank).reverse
    refine ⟨before, after.reverse, ?_, blankBefore, ?_⟩
    · have whole := congrArg List.reverse back
      rw [List.reverse_reverse, List.reverse_append] at whole
      rw [trimBlank, List.append_assoc, ← whole]
      exact front
    · intro char member
      exact blankAfter char (List.mem_reverse.mp member)
  · rintro ⟨before, after, rfl, blankBefore, blankAfter⟩
    rw [trimBlank, List.append_assoc, List.dropWhile_append_of_pos blankBefore]
    cases solid with
    | nil =>
      -- Nothing is left of a text of blanks.
      rw [List.nil_append, List.dropWhile_eq_nil_iff.mpr blankAfter]
      rfl
    | cons char rest =>
      -- The text in between begins and ends with something that stays.
      have first := filled char (List.mem_cons_self ..)
      have kept : (char :: rest).reverse.dropWhile isBlank = (char :: rest).reverse := by
        rw [List.dropWhile_eq_self_iff]
        intro inside
        simp only [filled _ (List.mem_reverse.mp (List.getElem_mem inside)), Bool.false_eq_true,
          not_false_eq_true]
      have reversed : ∀ char ∈ after.reverse, isBlank char = true := by
        intro char member
        exact blankAfter char (List.mem_reverse.mp member)
      rw [List.cons_append, List.dropWhile_cons_of_neg (by simp [first]), ← List.cons_append,
        List.reverse_append, List.dropWhile_append_of_pos reversed, kept, List.reverse_reverse]

end UniText
