import UniText.Hangul

/-! Syllables that are joined from letters are taken apart into the same letters. -/

namespace UniText.Hangul

/-- A range of code points in terms of their numbers. -/
theorem within_iff {code : CodePoint} {first count : Nat} :
    within code first count = true ↔ first ≤ code.toNat ∧ code.toNat < first + count := by
  simp [within]

/-- The syllables in numbers. -/
theorem isSyllable_iff {code : CodePoint} :
    isSyllable code = true ↔ 0xAC00 ≤ code.toNat ∧ code.toNat < 0xD7A4 := within_iff

/-- The leading consonants in numbers. -/
theorem isLeading_iff {code : CodePoint} :
    isLeading code = true ↔ 0x1100 ≤ code.toNat ∧ code.toNat < 0x1113 := within_iff

/-- The vowels in numbers. -/
theorem isVowel_iff {code : CodePoint} :
    isVowel code = true ↔ 0x1161 ≤ code.toNat ∧ code.toNat < 0x1176 := within_iff

/-- The trailing consonants in numbers. -/
theorem isTrailing_iff {code : CodePoint} :
    isTrailing code = true ↔ 0x11A8 ≤ code.toNat ∧ code.toNat < 0x11C3 := within_iff

/-- A code point is known by its number. -/
theorem ofNat_eq_iff {number : Nat} (small : number < 0x110000) {code : CodePoint} :
    UInt32.ofNat number = code ↔ number = code.toNat := by
  -- Below the end of the code space no number is cut short.
  have whole : number % 2 ^ 32 = number := Nat.mod_eq_of_lt (by omega)
  rw [← UInt32.toNat_inj, UInt32.toNat_ofNat', whole]

/-- A small number is the number of its code point. -/
theorem toNat_ofNat {number : Nat} (small : number < 0x110000) :
    (UInt32.ofNat number).toNat = number := ((ofNat_eq_iff small).mp rfl).symm

/-- The place of a syllable among all of them has the places of its letters as digits. -/
theorem digits_of_places {syllable : CodePoint} {leading vowel trailing : Nat}
    (isVowel_ : vowel < 21) (isTrailing_ : trailing < 28)
    (number : syllable.toNat = 0xAC00 + leading * 588 + vowel * 28 + trailing) :
    index syllable / 588 = leading ∧ index syllable % 588 / 28 = vowel ∧
      index syllable % 28 = trailing := by
  -- A place is a number of three digits, each of which is below its base.
  have place : index syllable = leading * 588 + vowel * 28 + trailing := by
    simp only [index, firstSyllable]
    omega
  omega

/-- The letters in numbers: a leading consonant, a vowel, and a trailing consonant if any. -/
theorem letters_eq {syllable : CodePoint} (leading vowel trailing : Nat)
    (isLeading_ : leading < 19) (isVowel_ : vowel < 21) (isTrailing_ : trailing < 28)
    (number : syllable.toNat = 0xAC00 + leading * 588 + vowel * 28 + trailing) :
    isSyllable syllable = true ∧ letters syllable =
      if trailing = 0 then [UInt32.ofNat (0x1100 + leading), UInt32.ofNat (0x1161 + vowel)]
      else [UInt32.ofNat (0x1100 + leading), UInt32.ofNat (0x1161 + vowel),
        UInt32.ofNat (0x11A7 + trailing)] := by
  obtain ⟨front, middle, last⟩ := digits_of_places isVowel_ isTrailing_ number
  constructor
  · -- The digits are small enough for the number to lie among the syllables.
    rw [isSyllable_iff]
    omega
  · simp only [letters, leadingOf, vowelOf, trailingOf, firstLeading, firstVowel, noTrailing,
      perLeading, vowelCount, trailingCount, Nat.reduceMul, last, middle, front]

/-- Letters join to a syllable that falls apart into the same letters.

An open syllable stands for its two letters when it takes in a trailing consonant. -/
theorem letters_of_join {first second syllable : CodePoint}
    (joined : join first second = some syllable) : isSyllable syllable = true ∧
      (isLeading first = true ∧ isVowel second = true ∧ letters syllable = [first, second] ∨
        isSyllable first = true ∧ isTrailing second = true ∧
          letters syllable = letters first ++ [second]) := by
  unfold join at joined
  split at joined
  · -- A leading consonant and a vowel are the digits of an open syllable.
    next pair =>
    simp only [Bool.and_eq_true] at pair
    obtain ⟨leading, vowel⟩ := pair
    have leadingRange := isLeading_iff.mp leading
    have vowelRange := isVowel_iff.mp vowel
    simp only [Option.some.injEq, firstSyllable, firstLeading, firstVowel, perLeading, vowelCount,
      trailingCount, Nat.reduceMul] at joined
    rw [ofNat_eq_iff (by omega)] at joined
    have number : syllable.toNat
        = 0xAC00 + (first.toNat - 0x1100) * 588 + (second.toNat - 0x1161) * 28 + 0 := by omega
    obtain ⟨isSyllable_, same⟩ := letters_eq (first.toNat - 0x1100) (second.toNat - 0x1161) 0
      (by omega) (by omega) (by omega) number
    -- Adding what was subtracted gives the two letters back.
    have one : UInt32.ofNat (0x1100 + (first.toNat - 0x1100)) = first := by
      rw [ofNat_eq_iff (by omega)]
      omega
    have two : UInt32.ofNat (0x1161 + (second.toNat - 0x1161)) = second := by
      rw [ofNat_eq_iff (by omega)]
      omega
    rw [if_pos rfl, one, two] at same
    exact ⟨isSyllable_, .inl ⟨leading, vowel, same⟩⟩
  · split at joined
    · -- A trailing consonant is the last digit, which an open syllable leaves at zero.
      next pair =>
      simp only [isOpen, Bool.and_eq_true, decide_eq_true_iff] at pair
      obtain ⟨⟨open_, divisible⟩, trailing⟩ := pair
      have openRange := isSyllable_iff.mp open_
      have trailingRange := isTrailing_iff.mp trailing
      simp only [firstSyllable, trailingCount, index] at divisible
      simp only [Option.some.injEq, noTrailing] at joined
      rw [ofNat_eq_iff (by omega)] at joined
      have firstNumber : first.toNat = 0xAC00 + (first.toNat - 0xAC00) / 588 * 588
          + (first.toNat - 0xAC00) % 588 / 28 * 28 + 0 := by omega
      have number : syllable.toNat = 0xAC00 + (first.toNat - 0xAC00) / 588 * 588
          + (first.toNat - 0xAC00) % 588 / 28 * 28 + (second.toNat - 0x11A7) := by omega
      obtain ⟨isSyllable_, same⟩ := letters_eq _ _ _ (by omega) (by omega) (by omega) number
      obtain ⟨-, openLetters⟩ := letters_eq _ _ _ (by omega) (by omega) (by omega) firstNumber
      have three : UInt32.ofNat (0x11A7 + (second.toNat - 0x11A7)) = second := by
        rw [ofNat_eq_iff (by omega)]
        omega
      -- Both syllables have the same first two letters.
      rw [if_neg (by omega), three] at same
      rw [if_pos rfl] at openLetters
      refine ⟨isSyllable_, .inr ⟨open_, trailing, ?_⟩⟩
      rw [same, openLetters]
      rfl
    · simp at joined

/-- A leading consonant, a vowel or a trailing consonant. -/
def isLetter (code : CodePoint) : Bool := isLeading code || isVowel code || isTrailing code

/-- The letters in numbers. -/
theorem isLetter_iff {code : CodePoint} : isLetter code = true ↔
    (0x1100 ≤ code.toNat ∧ code.toNat < 0x1113) ∨ (0x1161 ≤ code.toNat ∧ code.toNat < 0x1176) ∨
      (0x11A8 ≤ code.toNat ∧ code.toNat < 0x11C3) := by
  -- The letters are three stretches, one for each position in a syllable.
  simp [isLetter, isLeading_iff, isVowel_iff, isTrailing_iff, or_assoc]

/-- A letter is not a syllable. -/
theorem isSyllable_of_isLetter {code : CodePoint} (letter : isLetter code = true) :
    isSyllable code = false := by
  -- All letters come long before the first syllable.
  rw [isLetter_iff] at letter
  rw [Bool.eq_false_iff, Ne, isSyllable_iff]
  omega

/-- The number of a syllable has the places of its letters as digits. -/
theorem exists_places {syllable : CodePoint} (isSyllable_ : isSyllable syllable = true) :
    ∃ leading vowel trailing, leading < 19 ∧ vowel < 21 ∧ trailing < 28 ∧
      syllable.toNat = 0xAC00 + leading * 588 + vowel * 28 + trailing := by
  rw [isSyllable_iff] at isSyllable_
  -- The digits come from dividing by the number of syllables that share a letter.
  exact ⟨(syllable.toNat - 0xAC00) / 588, (syllable.toNat - 0xAC00) % 588 / 28,
    (syllable.toNat - 0xAC00) % 28, by omega, by omega, by omega, by omega⟩

/-- A syllable falls apart into letters. -/
theorem isLetter_of_mem_letters {syllable code : CodePoint}
    (isSyllable_ : isSyllable syllable = true) (member : code ∈ letters syllable) :
    isLetter code = true := by
  obtain ⟨leading, vowel, trailing, isLeading_, isVowel_, isTrailing_, number⟩ :=
    exists_places isSyllable_
  obtain ⟨-, letters_⟩ := letters_eq _ _ _ isLeading_ isVowel_ isTrailing_ number
  have value {place : Nat} (small : place < 0x110000) (same : code = UInt32.ofNat place) :
      code.toNat = place := ((ofNat_eq_iff small).mp same.symm).symm
  rw [letters_] at member
  rw [isLetter_iff]
  -- Each letter lies as far into its range as its place says.
  split at member
  · simp only [List.mem_cons, List.not_mem_nil, or_false] at member
    rcases member with isFirst | isSecond
    · have := value (by omega) isFirst
      omega
    · have := value (by omega) isSecond
      omega
  · simp only [List.mem_cons, List.not_mem_nil, or_false] at member
    rcases member with isFirst | isSecond | isThird
    · have := value (by omega) isFirst
      omega
    · have := value (by omega) isSecond
      omega
    · have := value (by omega) isThird
      omega

/-- A leading consonant and a vowel join to the open syllable of their places. -/
theorem join_leading_vowel {leading vowel : Nat} (isLeading_ : leading < 19)
    (isVowel_ : vowel < 21) :
    join (UInt32.ofNat (0x1100 + leading)) (UInt32.ofNat (0x1161 + vowel))
      = some (UInt32.ofNat (0xAC00 + leading * 588 + vowel * 28)) := by
  have first : (UInt32.ofNat (0x1100 + leading)).toNat = 0x1100 + leading :=
    toNat_ofNat (by omega)
  have second : (UInt32.ofNat (0x1161 + vowel)).toNat = 0x1161 + vowel := toNat_ofNat (by omega)
  -- The places are within bounds, so that the two letters are a pair that joins.
  have pair : (isLeading (UInt32.ofNat (0x1100 + leading))
      && isVowel (UInt32.ofNat (0x1161 + vowel))) = true := by
    rw [Bool.and_eq_true, isLeading_iff, isVowel_iff, first, second]
    omega
  rw [join, if_pos pair, first, second]
  simp only [firstSyllable, firstLeading, firstVowel, perLeading, vowelCount, trailingCount,
    Nat.add_sub_cancel_left, Nat.reduceMul]

/-- An open syllable and a trailing consonant join to the syllable just as far behind it. -/
theorem join_open_trailing {leading vowel trailing : Nat} (isLeading_ : leading < 19)
    (isVowel_ : vowel < 21) (isTrailing_ : trailing < 28) (closed : trailing ≠ 0) :
    join (UInt32.ofNat (0xAC00 + leading * 588 + vowel * 28)) (UInt32.ofNat (0x11A7 + trailing))
      = some (UInt32.ofNat (0xAC00 + leading * 588 + vowel * 28 + trailing)) := by
  have first : (UInt32.ofNat (0xAC00 + leading * 588 + vowel * 28)).toNat
      = 0xAC00 + leading * 588 + vowel * 28 := toNat_ofNat (by omega)
  have second : (UInt32.ofNat (0x11A7 + trailing)).toNat = 0x11A7 + trailing :=
    toNat_ofNat (by omega)
  -- A syllable is no leading consonant, so the first way to join does not apply.
  have notLeading : isLeading (UInt32.ofNat (0xAC00 + leading * 588 + vowel * 28)) = false := by
    rw [Bool.eq_false_iff, Ne, isLeading_iff, first]
    omega
  have pair : (isOpen (UInt32.ofNat (0xAC00 + leading * 588 + vowel * 28))
      && isTrailing (UInt32.ofNat (0x11A7 + trailing))) = true := by
    rw [isOpen, Bool.and_eq_true, Bool.and_eq_true, isSyllable_iff, isTrailing_iff,
      decide_eq_true_iff, index, first, second]
    simp only [firstSyllable, trailingCount]
    omega
  rw [join, notLeading, Bool.false_and, if_neg Bool.false_ne_true, if_pos pair, first, second]
  simp only [noTrailing, Nat.add_sub_cancel_left]

/-- The two parts of a syllable join to it again. -/
theorem join_split {syllable : CodePoint} (isSyllable_ : isSyllable syllable = true) :
    join (split syllable).1 (split syllable).2 = some syllable := by
  obtain ⟨leading, vowel, trailing, isLeading_, isVowel_, isTrailing_, number⟩ :=
    exists_places isSyllable_
  obtain ⟨front, middle, last⟩ := digits_of_places isVowel_ isTrailing_ number
  have whole : UInt32.ofNat (0xAC00 + leading * 588 + vowel * 28 + trailing) = syllable := by
    rw [ofNat_eq_iff (by omega)]
    exact number.symm
  simp only [split, leadingOf, vowelOf, trailingOf, openOf, firstLeading, firstVowel, noTrailing,
    perLeading, vowelCount, trailingCount, Nat.reduceMul, last, middle, front]
  split
  · -- An open syllable has its two letters as parts.
    next zero =>
    rw [zero, Nat.add_zero] at whole
    rw [join_leading_vowel isLeading_ isVowel_, whole]
  · -- Without its trailing consonant a syllable is the open one of the same places.
    next closed =>
    have opened : syllable.toNat - trailing = 0xAC00 + leading * 588 + vowel * 28 := by omega
    rw [opened, join_open_trailing isLeading_ isVowel_ isTrailing_ closed, whole]

/-- The letters of a syllable join to it, one after the other. -/
theorem foldlM_join_letters {syllable : CodePoint} (isSyllable_ : isSyllable syllable = true) :
    ∃ first rest, letters syllable = first :: rest ∧ isLeading first = true ∧
      rest.foldlM join first = some syllable := by
  -- The places of the letters are the digits of the number of the syllable.
  obtain ⟨leading, vowel, trailing, isLeading_, isVowel_, isTrailing_, number⟩ :=
    exists_places isSyllable_
  have whole : UInt32.ofNat (0xAC00 + leading * 588 + vowel * 28 + trailing) = syllable := by
    rw [ofNat_eq_iff (by omega)]
    exact number.symm
  obtain ⟨-, letters_⟩ := letters_eq _ _ _ isLeading_ isVowel_ isTrailing_ number
  have opens : isLeading (UInt32.ofNat (0x1100 + leading)) = true := by
    rw [isLeading_iff, toNat_ofNat (by omega)]
    omega
  rw [letters_]
  split
  · -- Two letters join to the open syllable at once.
    next zero =>
    rw [zero, Nat.add_zero] at whole
    refine ⟨_, _, rfl, opens, ?_⟩
    rw [List.foldlM_cons, join_leading_vowel isLeading_ isVowel_, whole]
    rfl
  · -- A third one is taken in by the open syllable.
    next closed =>
    refine ⟨_, _, rfl, opens, ?_⟩
    rw [List.foldlM_cons, join_leading_vowel isLeading_ isVowel_, Option.bind_eq_bind,
      Option.bind_some, List.foldlM_cons, join_open_trailing isLeading_ isVowel_ isTrailing_ closed,
      whole]
    rfl

/-- A syllable is known by its letters. -/
theorem eq_of_letters_eq {one another : CodePoint} (oneWhole : isSyllable one = true)
    (anotherWhole : isSyllable another = true) (same : letters one = letters another) :
    one = another := by
  obtain ⟨first, rest, spelt, -, joined⟩ := foldlM_join_letters oneWhole
  obtain ⟨first', rest', spelt', -, joined'⟩ := foldlM_join_letters anotherWhole
  -- The same letters join to the same syllable.
  rw [spelt, spelt', List.cons.injEq] at same
  obtain ⟨rfl, rfl⟩ := same
  rw [joined, Option.some.injEq] at joined'
  exact joined'

/-- There is one way only to join two code points to a given syllable. -/
theorem join_injective {first second one another syllable : CodePoint}
    (joined : join first second = some syllable) (joined' : join one another = some syllable) :
    first = one ∧ second = another := by
  obtain ⟨-, parts⟩ := letters_of_join joined
  obtain ⟨-, parts'⟩ := letters_of_join joined'
  have several (code : CodePoint) : (letters code).length ≠ 1 := by
    unfold letters
    split <;> simp
  -- An open syllable as the first part would make three letters, and a single letter makes two.
  rcases parts with ⟨-, -, two⟩ | ⟨firstWhole, -, three⟩
  · rcases parts' with ⟨-, -, two'⟩ | ⟨-, -, three'⟩
    · simpa [two] using two'
    · rw [two] at three'
      have many := congrArg List.length three'
      exact absurd (by simpa using many) (several one)
  · rcases parts' with ⟨-, -, two'⟩ | ⟨oneWhole, -, three'⟩
    · rw [two'] at three
      have many := congrArg List.length three
      exact absurd (by simpa using many) (several first)
    · rw [three] at three'
      obtain ⟨opened, closing⟩ := List.append_inj' three' rfl
      exact ⟨eq_of_letters_eq firstWhole oneWhole opened, by simpa using closing⟩

/-- Two code points join to a syllable exactly if it splits into them. -/
theorem join_eq_some_iff {first second syllable : CodePoint} : join first second = some syllable ↔
    isSyllable syllable = true ∧ split syllable = (first, second) := by
  -- Splitting undoes joining, as there is one way only to join to a syllable.
  constructor
  · intro joined
    have isSyllable_ := (letters_of_join joined).1
    obtain ⟨one, another⟩ := join_injective joined (join_split isSyllable_)
    exact ⟨isSyllable_, Prod.ext one.symm another.symm⟩
  · rintro ⟨isSyllable_, parts⟩
    have joined := join_split isSyllable_
    rwa [parts] at joined

/-- The first part of a syllable has a smaller number. -/
theorem toNat_split_lt {syllable : CodePoint} (isSyllable_ : isSyllable syllable = true) :
    (split syllable).1.toNat < syllable.toNat := by
  have range := isSyllable_iff.mp isSyllable_
  simp only [split]
  split
  · -- The letters come long before the syllables.
    have below : firstLeading + index syllable / perLeading < 0xAC00 := by
      simp only [index, firstLeading, firstSyllable, perLeading, vowelCount, trailingCount]
      omega
    rw [leadingOf, toNat_ofNat (by omega)]
    omega
  · -- The place of the trailing consonant is what is taken away.
    rw [openOf, toNat_ofNat (by omega)]
    omega

/-- Splits a code point, and then its first part, for as long as that is a syllable. -/
def splitAll (code : CodePoint) : List CodePoint :=
  if _whole : isSyllable code = true then splitAll (split code).1 ++ [(split code).2]
  else [code]
termination_by code.toNat
decreasing_by exact toNat_split_lt _whole

/-- A syllable splits into its letters. -/
theorem splitAll_eq_letters {syllable : CodePoint} (isSyllable_ : isSyllable syllable = true) :
    splitAll syllable = letters syllable := by
  -- The first part is smaller, and its own letters are known if it is a syllable.
  induction number : syllable.toNat using Nat.strongRecOn generalizing syllable with
  | ind number ih =>
    subst number
    rw [splitAll, dif_pos isSyllable_]
    obtain ⟨-, ⟨leading, -, two⟩ | ⟨opened, -, three⟩⟩ :=
      letters_of_join (join_split isSyllable_)
    · have letter : isSyllable (split syllable).1 = false :=
        isSyllable_of_isLetter (by simp [isLetter, leading])
      rw [splitAll, dif_neg (by simp [letter]), two]
      rfl
    · rw [ih _ (toNat_split_lt isSyllable_) opened rfl, three]

/-- Joins code points from left to right. -/
def joinAll : List CodePoint → Option CodePoint
  | [] => none
  | first :: rest => rest.foldlM join first

/-- The letters of a syllable join to it. -/
theorem joinAll_letters {syllable : CodePoint} (isSyllable_ : isSyllable syllable = true) :
    joinAll (letters syllable) = some syllable := by
  -- Joining from the left begins with the first of the letters.
  obtain ⟨first, rest, spelt, -, joined⟩ := foldlM_join_letters isSyllable_
  rw [spelt]
  exact joined

end UniText.Hangul
