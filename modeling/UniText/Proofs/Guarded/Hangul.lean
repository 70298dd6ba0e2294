import Mathlib.Algebra.Group.Nat.Defs
import UniText.Proofs.Hangul

/-! Hangul arithmetic on words: joining and splitting undo each other, and no word overflows. -/

namespace UniText

namespace CodePoint

/-- The sum of two words, if it fits into one. -/
def sum? (one another : CodePoint) : Option CodePoint :=
  if one.toNat + another.toNat < 2 ^ 32 then some (one + another) else none

/-- The difference of two words, if the second is not the greater one. -/
def difference? (one another : CodePoint) : Option CodePoint :=
  if another.toNat ≤ one.toNat then some (one - another) else none

/-- The product of two words, if it fits into one. -/
def product? (one another : CodePoint) : Option CodePoint :=
  if one.toNat * another.toNat < 2 ^ 32 then some (one * another) else none

section Words

variable {one another : CodePoint} {first second : Nat}

/-- A sum that fits is the word of the sum of the numbers. -/
theorem sum?_eq (isFirst : one.toNat = first) (isSecond : another.toNat = second)
    (fits : first + second < 2 ^ 32) : sum? one another = some (UInt32.ofNat (first + second)) := by
  -- Words are added like numbers, apart from the reduction that the test rules out.
  subst isFirst isSecond
  rw [sum?, if_pos fits, UInt32.ofNat_add, UInt32.ofNat_toNat, UInt32.ofNat_toNat]

/-- A difference that is not negative is the word of the difference of the numbers. -/
theorem difference?_eq (isFirst : one.toNat = first) (isSecond : another.toNat = second)
    (below : second ≤ first) : difference? one another = some (UInt32.ofNat (first - second)) := by
  -- Words are subtracted like numbers, apart from the borrowing that the test rules out.
  subst isFirst isSecond
  rw [difference?, if_pos below, UInt32.ofNat_sub below, UInt32.ofNat_toNat, UInt32.ofNat_toNat]

/-- A product that fits is the word of the product of the numbers. -/
theorem product?_eq (isFirst : one.toNat = first) (isSecond : another.toNat = second)
    (fits : first * second < 2 ^ 32) :
    product? one another = some (UInt32.ofNat (first * second)) := by
  -- Words are multiplied like numbers, apart from the reduction that the test rules out.
  subst isFirst isSecond
  rw [product?, if_pos fits, UInt32.ofNat_mul, UInt32.ofNat_toNat, UInt32.ofNat_toNat]

end Words

end CodePoint

namespace Hangul

open CodePoint

/-- The place of a code point among the syllables, as a word. -/
def indexChecked (code : CodePoint) : Option CodePoint :=
  difference? code (UInt32.ofNat firstSyllable)

/-- The leading consonant of the syllable in a place. -/
def leadingChecked (place : CodePoint) : Option CodePoint :=
  sum? (UInt32.ofNat firstLeading) (place / UInt32.ofNat perLeading)

/-- The vowel of the syllable in a place. -/
def vowelChecked (place : CodePoint) : Option CodePoint :=
  sum? (UInt32.ofNat firstVowel) (place % UInt32.ofNat perLeading / UInt32.ofNat trailingCount)

/-- The trailing consonant of the syllable in a place. -/
def trailingChecked (place : CodePoint) : Option CodePoint :=
  sum? (UInt32.ofNat noTrailing) (place % UInt32.ofNat trailingCount)

/-- The letters of a syllable, with every sum and difference checked. -/
def lettersChecked (code : CodePoint) : Option (List CodePoint) := do
  let place ← indexChecked code
  let leading ← leadingChecked place
  let vowel ← vowelChecked place
  if place % UInt32.ofNat trailingCount = 0 then return [leading, vowel]
  else do
    let trailing ← trailingChecked place
    return [leading, vowel, trailing]

/-- One step of taking a syllable apart, with every sum and difference checked. -/
def splitChecked (code : CodePoint) : Option (CodePoint × CodePoint) := do
  let place ← indexChecked code
  if place % UInt32.ofNat trailingCount = 0 then do
    let leading ← leadingChecked place
    let vowel ← vowelChecked place
    return (leading, vowel)
  else do
    let opened ← difference? code (place % UInt32.ofNat trailingCount)
    let trailing ← trailingChecked place
    return (opened, trailing)

/-- Whether a code point is an open syllable, with the difference checked. -/
def isOpenChecked (code : CodePoint) : Option Bool :=
  -- Nothing is subtracted from a code point that is no syllable.
  if isSyllable code then do
    let place ← indexChecked code
    return place % UInt32.ofNat trailingCount = 0
  else return false

/-- Joins a leading consonant and a vowel, with every sum, difference and product checked. -/
def joinLetters (leading vowel : CodePoint) : Option CodePoint := do
  let row ← difference? leading (UInt32.ofNat firstLeading)
  let column ← difference? vowel (UInt32.ofNat firstVowel)
  let front ← product? row (UInt32.ofNat perLeading)
  let behind ← product? column (UInt32.ofNat trailingCount)
  let place ← sum? front behind
  sum? (UInt32.ofNat firstSyllable) place

/-- Joins an open syllable and a trailing consonant, with the sum and the difference checked. -/
def closeSyllable (opened trailing : CodePoint) : Option CodePoint := do
  let further ← difference? trailing (UInt32.ofNat noTrailing)
  sum? opened further

/-- Joins two code points that can be joined, with every sum, difference and product checked. -/
def joinChecked (first second : CodePoint) : Option (Option CodePoint) :=
  if isLeading first && isVowel second then (joinLetters first second).map some
  else do
    let opened ← isOpenChecked first
    if opened && isTrailing second then (closeSyllable first second).map some
    else return none

section Places

variable {code place : CodePoint} (placed : place.toNat = index code)

include placed

/-- The leading consonant of a place is that of its syllable. -/
theorem leadingChecked_eq (few : index code < syllableCount) :
    leadingChecked place = some (leadingOf code) := by
  have quotient : (place / UInt32.ofNat perLeading).toNat = index code / perLeading := by
    rw [UInt32.toNat_div, placed]
    rfl
  apply sum?_eq rfl quotient
  -- There are no more quotients than there are leading consonants.
  show 0x1100 + index code / 588 < 2 ^ 32
  change index code < 11172 at few
  omega

/-- The vowel of a place is that of its syllable. -/
theorem vowelChecked_eq : vowelChecked place = some (vowelOf code) := by
  -- The middle digit of the place is small, whatever the place is.
  have digit : (place % UInt32.ofNat perLeading / UInt32.ofNat trailingCount).toNat
      = index code % perLeading / trailingCount := by
    rw [UInt32.toNat_div, UInt32.toNat_mod, placed]
    rfl
  apply sum?_eq rfl digit
  show 0x1161 + index code % 588 / 28 < 2 ^ 32
  omega

/-- The last digit of a place as a number. -/
theorem toNat_lastDigit :
    (place % UInt32.ofNat trailingCount).toNat = index code % trailingCount := by
  -- Remainders of words never leave their range.
  rw [UInt32.toNat_mod, placed]
  rfl

/-- The last digit of a place is zero exactly if its syllable is open. -/
theorem lastDigit_eq_zero_iff :
    place % UInt32.ofNat trailingCount = 0 ↔ index code % trailingCount = 0 := by
  -- A word is zero if its number is.
  rw [← UInt32.toNat_inj, toNat_lastDigit placed]
  rfl

/-- The trailing consonant of a place is that of its syllable. -/
theorem trailingChecked_eq : trailingChecked place = some (trailingOf code) := by
  -- The last digit of the place is small, whatever the place is.
  apply sum?_eq rfl (toNat_lastDigit placed)
  show 0x11A7 + index code % 28 < 2 ^ 32
  omega

end Places

section Syllables

variable {code : CodePoint} (whole : isSyllable code = true)

include whole

/-- The place of a syllable is found, and lies below the number of syllables. -/
theorem exists_indexChecked : ∃ place, indexChecked code = some place ∧
    place.toNat = index code ∧ index code < syllableCount := by
  -- The first syllable is not subtracted from anything below it.
  have range := isSyllable_iff.mp whole
  have few : index code < 11172 := by
    simp only [index, firstSyllable]
    omega
  exact ⟨_, difference?_eq rfl rfl range.1, toNat_ofNat (by omega), few⟩

/-- Finding the letters of a syllable never leaves the range of words. -/
theorem lettersChecked_eq : lettersChecked code = some (letters code) := by
  -- Each digit of the place is small, and so is the letter that it leads to.
  obtain ⟨place, found, placed, few⟩ := exists_indexChecked whole
  rw [lettersChecked, found, Option.bind_eq_bind, Option.bind_some,
    leadingChecked_eq placed few, Option.bind_some, vowelChecked_eq placed, Option.bind_some]
  by_cases ends : index code % trailingCount = 0
  · rw [if_pos ((lastDigit_eq_zero_iff placed).mpr ends), letters, if_pos ends]
    rfl
  · rw [if_neg (mt (lastDigit_eq_zero_iff placed).mp ends), trailingChecked_eq placed, letters,
      if_neg ends]
    rfl

/-- Splitting a syllable never leaves the range of words. -/
theorem splitChecked_eq : splitChecked code = some (split code) := by
  obtain ⟨place, found, placed, few⟩ := exists_indexChecked whole
  rw [splitChecked, found, Option.bind_eq_bind, Option.bind_some]
  by_cases ends : index code % trailingCount = 0
  · rw [if_pos ((lastDigit_eq_zero_iff placed).mpr ends), leadingChecked_eq placed few,
      Option.bind_some, vowelChecked_eq placed, split, if_pos ends]
    rfl
  · -- What is taken away from a syllable is less than its place, and so less than its number.
    have opened : difference? code (place % UInt32.ofNat trailingCount) = some (openOf code) := by
      apply difference?_eq rfl (toNat_lastDigit placed)
      have part := Nat.mod_le (index code) trailingCount
      have inside : index code ≤ code.toNat := Nat.sub_le ..
      omega
    rw [if_neg (mt (lastDigit_eq_zero_iff placed).mp ends), opened, Option.bind_some,
      trailingChecked_eq placed, split, if_neg ends]
    rfl

end Syllables

/-- Asking for an open syllable never leaves the range of words. -/
theorem isOpenChecked_eq (code : CodePoint) : isOpenChecked code = some (isOpen code) := by
  cases whole : isSyllable code with
  | false => simp [isOpenChecked, isOpen, whole]
  | true =>
    -- Only here is the first syllable subtracted, and it does not come later.
    obtain ⟨place, found, placed, -⟩ := exists_indexChecked whole
    simp [isOpenChecked, isOpen, whole, found, lastDigit_eq_zero_iff placed]

/-- A leading consonant and a vowel join without leaving the range of words. -/
theorem joinLetters_eq {leading vowel : CodePoint} (isLeading_ : isLeading leading = true)
    (isVowel_ : isVowel vowel = true) : joinLetters leading vowel = join leading vowel := by
  have row := isLeading_iff.mp isLeading_
  have column := isVowel_iff.mp isVowel_
  -- The places of the letters are small, and so is the place of the syllable.
  have first : difference? leading (UInt32.ofNat firstLeading)
      = some (UInt32.ofNat (leading.toNat - 0x1100)) := difference?_eq rfl rfl row.1
  have second : difference? vowel (UInt32.ofNat firstVowel)
      = some (UInt32.ofNat (vowel.toNat - 0x1161)) := difference?_eq rfl rfl column.1
  have front : product? (UInt32.ofNat (leading.toNat - 0x1100)) (UInt32.ofNat perLeading)
      = some (UInt32.ofNat ((leading.toNat - 0x1100) * 588)) :=
    product?_eq (toNat_ofNat (by omega)) rfl (by omega)
  have behind : product? (UInt32.ofNat (vowel.toNat - 0x1161)) (UInt32.ofNat trailingCount)
      = some (UInt32.ofNat ((vowel.toNat - 0x1161) * 28)) :=
    product?_eq (toNat_ofNat (by omega)) rfl (by omega)
  have place : sum? (UInt32.ofNat ((leading.toNat - 0x1100) * 588))
      (UInt32.ofNat ((vowel.toNat - 0x1161) * 28))
      = some (UInt32.ofNat ((leading.toNat - 0x1100) * 588 + (vowel.toNat - 0x1161) * 28)) :=
    sum?_eq (toNat_ofNat (by omega)) (toNat_ofNat (by omega)) (by omega)
  have code : sum? (UInt32.ofNat firstSyllable)
      (UInt32.ofNat ((leading.toNat - 0x1100) * 588 + (vowel.toNat - 0x1161) * 28))
      = some (UInt32.ofNat
        (0xAC00 + ((leading.toNat - 0x1100) * 588 + (vowel.toNat - 0x1161) * 28))) :=
    sum?_eq rfl (toNat_ofNat (by omega)) (by omega)
  rw [joinLetters, first, Option.bind_eq_bind, Option.bind_some, second, Option.bind_some, front,
    Option.bind_some, behind, Option.bind_some, place, Option.bind_some, code, join,
    if_pos (by rw [isLeading_, isVowel_]; rfl), ← Nat.add_assoc]
  simp only [firstSyllable, firstLeading, firstVowel, perLeading, vowelCount, trailingCount,
    Nat.reduceMul]

/-- An open syllable takes in a trailing consonant without leaving the range of words. -/
theorem closeSyllable_eq {opened trailing : CodePoint} (isOpen_ : isOpen opened = true)
    (isTrailing_ : isTrailing trailing = true) :
    closeSyllable opened trailing = join opened trailing := by
  have whole : isSyllable opened = true := by
    rw [isOpen, Bool.and_eq_true] at isOpen_
    exact isOpen_.1
  have inside := isSyllable_iff.mp whole
  have range := isTrailing_iff.mp isTrailing_
  have further : difference? trailing (UInt32.ofNat noTrailing)
      = some (UInt32.ofNat (trailing.toNat - 0x11A7)) := difference?_eq rfl rfl (by omega)
  have code : sum? opened (UInt32.ofNat (trailing.toNat - 0x11A7))
      = some (UInt32.ofNat (opened.toNat + (trailing.toNat - 0x11A7))) :=
    sum?_eq rfl (toNat_ofNat (by omega)) (by omega)
  -- A syllable is no leading consonant, so that the first way to join does not apply.
  have other : isLeading opened = false := by
    rw [Bool.eq_false_iff, Ne, isLeading_iff]
    omega
  rw [closeSyllable, further, Option.bind_eq_bind, Option.bind_some, code, join, other,
    Bool.false_and, if_neg Bool.false_ne_true, if_pos (by rw [isOpen_, isTrailing_]; rfl)]
  simp only [noTrailing]

/-- Joining never leaves the range of words, whatever is to be joined. -/
theorem joinChecked_eq (first second : CodePoint) :
    joinChecked first second = some (join first second) := by
  rw [joinChecked, isOpenChecked_eq, Option.bind_eq_bind, Option.bind_some]
  by_cases letters : (isLeading first && isVowel second) = true
  · obtain ⟨leading, vowel⟩ := (Bool.and_eq_true ..).mp letters
    rw [if_pos letters, joinLetters_eq leading vowel, join, if_pos letters]
    rfl
  · by_cases closing : (isOpen first && isTrailing second) = true
    · obtain ⟨opened, trailing⟩ := (Bool.and_eq_true ..).mp closing
      rw [if_neg letters, if_pos closing, closeSyllable_eq opened trailing, join, if_neg letters,
        if_pos closing]
      rfl
    · -- Where nothing joins, nothing is computed.
      rw [if_neg letters, if_neg closing, join, if_neg letters, if_neg closing]
      rfl

/-- Joining is the inverse of splitting, on words that never leave their range.

Two code points join to a syllable exactly if it splits into them. A syllable falls into the letters
that splitting leaves when it goes on with the first part, and these join to it again. Each of these
is computed without a sum, a difference or a product that is no word. -/
theorem join_inverts_split :
    (∀ first second syllable, join first second = some syllable ↔
      isSyllable syllable = true ∧ split syllable = (first, second)) ∧
    (∀ syllable, isSyllable syllable = true →
      letters syllable = splitAll syllable ∧ joinAll (letters syllable) = some syllable ∧
      splitChecked syllable = some (split syllable) ∧
      lettersChecked syllable = some (letters syllable)) ∧
    ∀ first second, joinChecked first second = some (join first second) := by
  -- Joining is taken up for any two words, and splitting for syllables.
  refine ⟨fun first second syllable => join_eq_some_iff, ?_, joinChecked_eq⟩
  intro syllable whole
  exact ⟨(splitAll_eq_letters whole).symm, joinAll_letters whole, splitChecked_eq whole,
    lettersChecked_eq whole⟩

/-- A closed syllable splits in two steps into three letters, which join to it again. -/
theorem join_inverts_split_pwilh :
    (join 0xD4CC 0x11B6 = some 0xD4DB ∧ split 0xD4DB = (0xD4CC, 0x11B6)) ∧
    splitAll 0xD4DB = [0x1111, 0x1171, 0x11B6] ∧ joinAll [0x1111, 0x1171, 0x11B6] = some 0xD4DB ∧
    lettersChecked 0xD4DB = some [0x1111, 0x1171, 0x11B6] := by
  -- The trailing consonant goes first, and then the open syllable falls apart.
  obtain ⟨pairs, syllables, -⟩ := join_inverts_split
  have parts : split 0xD4DB = (0xD4CC, 0x11B6) := by decide +kernel
  have spelt : letters 0xD4DB = [0x1111, 0x1171, 0x11B6] := by decide +kernel
  obtain ⟨steps, joined, -, checked⟩ := syllables 0xD4DB (by decide +kernel)
  rw [spelt] at steps joined checked
  exact ⟨⟨(pairs ..).mpr ⟨by decide +kernel, parts⟩, parts⟩, steps.symm, joined, checked⟩

end Hangul

end UniText
