import Mathlib.Data.List.Forall2
import UniText.Proofs.Text.Fields
import UniText.Version

/-! Reading undoes writing for versions, and accepts exactly the texts that spell one. -/

namespace UniText.Version

/-- A field spells a number in decimal digits behind at most one plus sign, with blanks around. -/
def Spells (field : List Char) (value : Nat) : Prop :=
  ∃ before sign digits after, field = before ++ (sign ++ digits) ++ after ∧
    (∀ char ∈ before, isBlank char = true) ∧ (∀ char ∈ after, isBlank char = true) ∧
    (sign = [] ∨ sign = ['+']) ∧ digits ≠ [] ∧ (∀ digit ∈ digits, digit.isDigit = true) ∧
    value = Nat.ofDigitChars 10 digits 0

/-- A text spells bytes if the fields between its points spell them one after the other. -/
def SpellsAll (text : List Char) (values : List UInt8) : Prop :=
  ∃ written, (∀ field ∈ written, '.' ∉ field) ∧ ['.'].intercalate written = text ∧
    List.Forall₂ (fun field value => Spells field value.toNat) written values

/-- The number of components of a text, with a point between each two. -/
def componentCount (text : String) : Nat := text.toList.count '.' + 1

/-- A digit is not a blank, nor a point, nor a plus sign. -/
theorem not_digit {digit : Char} (isDigit_ : digit.isDigit = true) :
    isBlank digit = false ∧ digit ≠ '.' ∧ digit ≠ '+' := by
  -- The digits are ten code points without a gap.
  rw [Char.isDigit_iff_toNat] at isDigit_
  change 48 ≤ digit.toNat ∧ digit.toNat ≤ 57 at isDigit_
  refine ⟨?_, ?_, ?_⟩
  · simp only [isBlank, blankRanges, List.any_cons, List.any_nil, Bool.or_false,
      Bool.or_eq_false_iff, Bool.and_eq_false_iff, decide_eq_false_iff_not]
    omega
  · rintro rfl
    exact absurd isDigit_ (by decide)
  · rintro rfl
    exact absurd isDigit_ (by decide)

/-- The value of digits is the number that they write. -/
theorem digits?_eq_some_iff {text : List Char} {value : Nat} : digits? text = some value ↔
    text ≠ [] ∧ (∀ digit ∈ text, digit.isDigit = true) ∧
      value = Nat.ofDigitChars 10 text 0 := by
  have number : text.foldl (fun value digit => value * 10 + (digit.toNat - '0'.toNat)) 0
      = Nat.ofDigitChars 10 text 0 := by
    rw [Nat.ofDigitChars_eq_foldl]
    simp only [Nat.mul_comm]
  rw [digits?, number]
  split
  · next refused =>
    -- There is no digit at all, or a character that is none.
    simp only [Bool.or_eq_true, List.isEmpty_iff, Bool.not_eq_true', List.all_eq_false] at refused
    grind
  · next accepted =>
    simp only [Bool.or_eq_true, List.isEmpty_iff, Bool.not_eq_true', List.all_eq_false] at accepted
    grind

/-- A plus sign is taken off the front of a text, and nothing else is. -/
theorem exists_sign (text : List Char) : ∃ sign, (sign = [] ∨ sign = ['+']) ∧
    text = sign ++ if text.head? = some '+' then text.tail else text := by
  -- A second plus sign is left among the digits.
  split
  · next signed => exact ⟨['+'], .inr rfl, (List.cons_head?_tail signed).symm⟩
  · exact ⟨[], .inl rfl, rfl⟩

/-- What is left of digits behind a sign are the digits. -/
theorem unsigned_append {sign digits : List Char} (isSign : sign = [] ∨ sign = ['+'])
    (isDigits : ∀ digit ∈ digits, digit.isDigit = true) :
    (if (sign ++ digits).head? = some '+' then (sign ++ digits).tail else sign ++ digits)
      = digits := by
  rcases isSign with rfl | rfl
  · -- Digits do not begin with a sign.
    rw [List.nil_append, if_neg]
    intro signed
    exact (not_digit (isDigits _ (List.mem_of_head? signed))).2.2 rfl
  · rfl

/-- A component is read from a field exactly if the field spells it. -/
theorem part?_eq_some_iff {field : List Char} {value : UInt8} :
    part? field = some value ↔ Spells field value.toNat := by
  have solid {sign digits : List Char} (isSign : sign = [] ∨ sign = ['+'])
      (isDigits : ∀ digit ∈ digits, digit.isDigit = true) :
      ∀ char ∈ sign ++ digits, isBlank char = false := by
    intro char member
    rcases List.mem_append.mp member with signed | digit
    · rcases isSign with rfl | rfl
      · exact absurd signed List.not_mem_nil
      · rw [List.mem_singleton.mp signed]
        decide
    · exact (not_digit (isDigits char digit)).1
  constructor
  · intro read
    -- What is left between the blanks is a sign and what is read as digits.
    obtain ⟨sign, isSign, parted⟩ := exists_sign (trimBlank field)
    rw [part?] at read
    split at read
    · next number found =>
      obtain ⟨nonempty, isDigits, written⟩ := digits?_eq_some_iff.mp found
      obtain ⟨before, after, whole, blankBefore, blankAfter⟩ :=
        (trimBlank_eq_iff (solid isSign isDigits)).mp parted
      -- A number that a byte can hold is the number of that byte.
      have same : value.toNat = number := by
        split at read
        · next small =>
          rw [← Option.some.inj read]
          exact UInt8.toNat_ofNat_of_lt' (Nat.lt_succ_of_le small)
        · simp at read
      exact ⟨before, sign, _, after, whole, blankBefore, blankAfter, isSign, nonempty, isDigits,
        same.trans written⟩
    · simp at read
  · rintro ⟨before, sign, digits, after, whole, blankBefore, blankAfter, isSign, nonempty,
      isDigits, number⟩
    -- Neither a sign nor a digit is blank, so that trimming leaves both of them.
    have trimmed : trimBlank field = sign ++ digits :=
      (trimBlank_eq_iff (solid isSign isDigits)).mpr
        ⟨before, after, whole, blankBefore, blankAfter⟩
    have found : digits? digits = some value.toNat :=
      digits?_eq_some_iff.mpr ⟨nonempty, isDigits, number⟩
    have small : value.toNat ≤ 255 := Nat.le_of_lt_succ value.toNat_lt
    simp only [part?, trimmed, unsigned_append isSign isDigits, found, if_pos small,
      UInt8.ofNat_toNat]

/-- Components are read from fields exactly if the fields spell them one after the other. -/
theorem mapM_part?_eq_some_iff {written : List (List Char)} {values : List UInt8} :
    written.mapM part? = some values ↔
      List.Forall₂ (fun field value => Spells field value.toNat) written values := by
  induction written generalizing values with
  | nil => simp [Pure.pure, eq_comm]
  | cons field others ih =>
    -- The first component is that of the first field, and the others follow by induction.
    rw [List.mapM_cons, List.forall₂_cons_left_iff]
    simp only [Option.bind_eq_bind, Option.bind_eq_some_iff, part?_eq_some_iff, ih,
      Option.pure_def, Option.some.injEq]
    constructor
    · rintro ⟨value, first, rest, later, rfl⟩
      exact ⟨value, rest, first, later, rfl⟩
    · rintro ⟨value, rest, first, later, rfl⟩
      exact ⟨value, first, rest, later, rfl⟩

/-- Reading the fields of a text gives the bytes that the text spells. -/
theorem mapM_fields_eq_some_iff {text : List Char} {values : List UInt8}
    (nonempty : values ≠ []) :
    (fields '.' text).mapM part? = some values ↔ SpellsAll text values := by
  rw [mapM_part?_eq_some_iff]
  constructor
  · -- The fields themselves are parts that spell the bytes.
    intro spelt
    obtain ⟨-, apart, whole⟩ := fields_eq_iff.mp (rfl : fields '.' text = fields '.' text)
    exact ⟨_, apart, whole, spelt⟩
  · rintro ⟨written, apart, whole, spelt⟩
    -- The parts that spell the bytes are the fields, as there is one at least.
    have several : written ≠ [] := by
      rintro rfl
      exact nonempty (List.forall₂_nil_left_iff.mp spelt)
    rwa [fields_eq_iff.mpr ⟨several, apart, whole⟩]

/-- A text spells one byte more than it has points. -/
theorem SpellsAll.length_eq {text : String} {values : List UInt8} (nonempty : values ≠ [])
    (spelt : SpellsAll text.toList values) : values.length = componentCount text := by
  -- One byte is read from each field, and a field begins behind each point.
  have each := mapM_part?_eq_some_iff.mp ((mapM_fields_eq_some_iff nonempty).mpr spelt)
  rw [← each.length_eq, length_fields, componentCount]

/-- The components of the version that lists some bytes are these, and zeros behind them. -/
theorem ofParts_eq_iff {values : List UInt8} {version : Version} (few : values.length ≤ 4) :
    ofParts values = version ↔
      version.parts = values ++ List.replicate (4 - values.length) 0 := by
  obtain ⟨major, minor, patch, build⟩ := version
  -- There are up to four bytes, and none of them is moved.
  match values, few with
  | [], _ | [_], _ | [_, _], _ | [_, _, _], _ | [_, _, _, _], _ =>
    simp [ofParts, parts, List.replicate, eq_comm]

/-- A text is read as a version exactly if it spells its components, up to zeros at the end. -/
theorem parse_eq_ok_iff {text : String} {version : Version} : parse text = .ok version ↔
    ∃ values, 1 ≤ values.length ∧ values.length ≤ 4 ∧ SpellsAll text.toList values ∧
      version.parts = values ++ List.replicate (4 - values.length) 0 := by
  rw [parse]
  constructor
  · intro read
    split at read
    · simp at read
    · next few =>
      split at read
      · next values found =>
        -- There are as many components as fields, so one at least and four at most.
        have counted := (mapM_part?_eq_some_iff.mp found).length_eq
        have oneMore := length_fields '.' text.toList
        have nonempty : values ≠ [] := by
          rintro rfl
          rw [List.length_nil] at counted
          omega
        have most : values.length ≤ 4 := by omega
        exact ⟨values, List.length_pos_iff.mpr nonempty, most,
          (mapM_fields_eq_some_iff nonempty).mp found,
          (ofParts_eq_iff most).mp (Except.ok.inj read)⟩
      · simp at read
  · rintro ⟨values, least, most, spelt, components⟩
    have nonempty : values ≠ [] := List.length_pos_iff.mp least
    have counted := spelt.length_eq nonempty
    -- A fifth field would spell a fifth byte.
    have few : ¬4 < (fields '.' text.toList).length := by
      rw [length_fields]
      rw [componentCount] at counted
      omega
    rw [if_neg few, (mapM_fields_eq_some_iff nonempty).mpr spelt]
    exact congrArg Except.ok ((ofParts_eq_iff most).mpr components)

/-- Decimal digits spell the number that they are written for. -/
theorem spells_toDigits (value : Nat) : Spells (Nat.toDigits 10 value) value := by
  -- No blanks and no sign are written.
  refine ⟨[], [], Nat.toDigits 10 value, [], by simp, by simp, by simp, .inl rfl,
    Nat.toDigits_ne_nil, ?_, Nat.ofDigitChars_ten_toDigits.symm⟩
  intro digit member
  exact Nat.isDigit_of_mem_toDigits (by decide) (by decide) member

/-- The written form of a version spells the components that are written. -/
theorem spellsAll_text (version : Version) :
    SpellsAll version.text.toList version.writtenParts := by
  refine ⟨version.writtenParts.map fun part => Nat.toDigits 10 part.toNat, ?_, ?_, ?_⟩
  · intro field member
    obtain ⟨part, -, rfl⟩ := List.mem_map.mp member
    -- Only digits are written for a component.
    intro point
    exact (not_digit (Nat.isDigit_of_mem_toDigits (by decide) (by decide) point)).2.1 rfl
  · simp [text, String.toList_intercalate, Function.comp_def]
  · rw [List.forall₂_map_left_iff, List.forall₂_same]
    intro part _
    exact spells_toDigits part.toNat

/-- Two components are written at least, and four at most. -/
theorem length_writtenParts (version : Version) :
    2 ≤ version.writtenParts.length ∧ version.writtenParts.length ≤ 4 := by
  unfold writtenParts
  -- All four are written, or three, or two.
  split
  · exact ⟨Nat.le_add_left 2 2, Nat.le_refl 4⟩
  · split
    · exact ⟨Nat.le_add_left 2 1, Nat.le_add_left 3 1⟩
    · exact ⟨Nat.le_refl 2, Nat.le_add_left 2 2⟩

/-- A version is read back from its written form. -/
theorem parse_text (version : Version) : parse version.text = .ok version := by
  obtain ⟨least, most⟩ := length_writtenParts version
  -- The components that are not written are the zeros that reading fills in.
  have components := (ofParts_eq_iff most).mp (ofParts_writtenParts version)
  exact parse_eq_ok_iff.mpr ⟨_, by omega, most, spellsAll_text version, components⟩

/-- No more components are written than any two or more that list the version. -/
theorem length_writtenParts_le {version : Version} {values : List UInt8}
    (several : 2 ≤ values.length)
    (components : version.parts = values ++ List.replicate (4 - values.length) 0) :
    version.writtenParts.length ≤ values.length := by
  obtain ⟨major, minor, patch, build⟩ := version
  -- Where fewer than four are listed, those behind them are zeros, which are not written.
  match values, several with
  | [_, _], _ =>
    obtain ⟨-, -, rfl, rfl⟩ : _ ∧ _ ∧ patch = 0 ∧ build = 0 := by
      simpa [parts, List.replicate] using components
    exact Nat.le_refl 2
  | [_, _, _], _ =>
    obtain ⟨-, -, -, rfl⟩ : _ ∧ _ ∧ _ ∧ build = 0 := by
      simpa [parts, List.replicate] using components
    show (if patch ≠ 0 then [major, minor, patch] else [major, minor]).length ≤ 3
    split
    · exact Nat.le_refl 3
    · exact Nat.le_add_left 2 1
  | _ :: _ :: _ :: _ :: _, _ =>
    have most := (length_writtenParts ⟨major, minor, patch, build⟩).2
    simp only [List.length_cons]
    omega

/-- Reading is the inverse of writing, and accepts exactly the texts that spell a version.

The written form has the fewest components of all texts with two or more that are read as the same
version. One to four fields are read, each with the digits of a byte behind at most one plus sign
and with blanks around them; the components that are not there are zero. -/
theorem parse_inverts_text :
    (∀ version, parse version.text = .ok version) ∧
    (∀ version text, 2 ≤ componentCount text →
      componentCount text < componentCount version.text → parse text ≠ .ok version) ∧
    ∀ text version, parse text = .ok version ↔
      ∃ values, 1 ≤ values.length ∧ values.length ≤ 4 ∧ SpellsAll text.toList values ∧
        version.parts = values ++ List.replicate (4 - values.length) 0 := by
  refine ⟨parse_text, ?_, fun text version => parse_eq_ok_iff⟩
  intro version text several fewer read
  obtain ⟨values, least, -, spelt, components⟩ := parse_eq_ok_iff.mp read
  have counted := spelt.length_eq (List.length_pos_iff.mp least)
  -- The written form has a component for each one that is written.
  have written := (spellsAll_text version).length_eq
    (List.length_pos_iff.mp (by have := (length_writtenParts version).1; omega))
  have needed := length_writtenParts_le (by omega) components
  omega

/-- Zeros before the last component are written, and are read in other spellings too. -/
theorem parse_inverts_text_build :
    let version : Version := ⟨1, 0, 0, 7⟩
    parse version.text = .ok version ∧
      (2 ≤ componentCount "1.7" ∧ componentCount "1.7" < componentCount version.text ∧
        parse "1.7" ≠ .ok version) ∧
      ∃ values, 1 ≤ values.length ∧ values.length ≤ 4 ∧
        SpellsAll "\t+1.0.000. 007 ".toList values ∧
        version.parts = values ++ List.replicate (4 - values.length) 0 := by
  -- The last component is not zero, so that all four are written.
  intro version
  obtain ⟨restored, shortest, spelt⟩ := parse_inverts_text
  have several : 2 ≤ componentCount "1.7" := by decide +kernel
  have fewer : componentCount "1.7" < componentCount version.text := by decide +kernel
  exact ⟨restored version, ⟨several, fewer, shortest version "1.7" several fewer⟩,
    (spelt ..).mp (by decide +kernel)⟩

end UniText.Version
