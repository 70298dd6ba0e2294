import UniText.Charset.Name

/-! Names of charsets are told apart by their letters and digits, and by nothing else. -/

namespace UniText.Charset

/-- A charset answers to a name that has the letters and digits of one of its own names. -/
def AnswersTo (charset : Charset) (name : String) : Prop :=
  ∃ known ∈ charset.names, key known = key name

/-- A name without hyphens, underscores and spaces, in small letters. -/
def joined (name : String) : List Char :=
  (name.toList.filter fun char => char ≠ '-' && char ≠ '_' && char ≠ ' ').map Char.toLower

/-- The letters and digits are three stretches of code points. -/
theorem isAlphanum_iff (char : Char) : char.isAlphanum = true ↔
    (65 ≤ char.toNat ∧ char.toNat ≤ 90 ∨ 97 ≤ char.toNat ∧ char.toNat ≤ 122) ∨
      48 ≤ char.toNat ∧ char.toNat ≤ 57 := by
  -- Characters are compared like the numbers of their code points.
  show (decide ('A'.val ≤ char.val ∧ char.val ≤ 'Z'.val) ||
    decide ('a'.val ≤ char.val) && decide (char.val ≤ 'z'.val) ||
    decide ('0'.val ≤ char.val) && decide (char.val ≤ '9'.val)) = true ↔ _
  simp only [Bool.or_eq_true, Bool.and_eq_true, decide_eq_true_eq, UInt32.le_iff_toNat_le]
  rfl

/-- Only capitals are made small, and they become the letters 32 places behind them. -/
theorem toNat_toLower (char : Char) : char.toLower.toNat =
    if 65 ≤ char.toNat ∧ char.toNat ≤ 90 then char.toNat + 32 else char.toNat := by
  have capital : char.val ≥ 'A'.val ∧ char.val ≤ 'Z'.val
      ↔ 65 ≤ char.toNat ∧ char.toNat ≤ 90 := by
    rw [ge_iff_le, UInt32.le_iff_toNat_le, UInt32.le_iff_toNat_le]
    rfl
  unfold Char.toLower
  split
  · next within =>
    -- The sum of a capital and 32 does not come near the end of the words.
    have range := capital.mp within
    rw [if_pos range]
    show (char.val + 32).toNat = char.toNat + 32
    rw [UInt32.toNat_add]
    change (char.toNat + 32) % 2 ^ 32 = char.toNat + 32
    omega
  · next outside =>
    rw [if_neg (mt capital.mpr outside)]

/-- Making a letter small does not change whether it is a letter or a digit. -/
theorem isAlphanum_toLower (char : Char) : char.toLower.isAlphanum = char.isAlphanum := by
  -- A capital becomes a small letter, and nothing else changes.
  rw [Bool.eq_iff_iff, isAlphanum_iff, isAlphanum_iff, toNat_toLower]
  split <;> omega

/-- The letters and digits of a name are those that are left without its marks. -/
theorem key_eq_filter_joined (name : String) :
    key name = (joined name).filter Char.isAlphanum := by
  have kept : Char.isAlphanum ∘ Char.toLower = Char.isAlphanum := funext isAlphanum_toLower
  -- None of the three marks is a letter or a digit.
  have apart (char : Char) : (char.isAlphanum && (char ≠ '-' && char ≠ '_' && char ≠ ' '))
      = char.isAlphanum := by
    by_cases mark : char = '-' ∨ char = '_' ∨ char = ' '
    · rcases mark with rfl | rfl | rfl <;> rfl
    · simp only [not_or] at mark
      simp [mark]
  rw [joined, List.filter_map, kept, List.filter_filter]
  simp only [apart, key]

/-- No two charsets have names that agree. -/
theorem eq_of_key_eq : ∀ one ∈ all, ∀ other ∈ all, ∀ known ∈ one.names, ∀ another ∈ other.names,
    key known = key another → one = other := by
  -- There are seven charsets with a few names each.
  decide +kernel

/-- Only one charset answers to a name. -/
theorem AnswersTo.unique {one other : Charset} {name : String} (answers : one.AnswersTo name)
    (answers' : other.AnswersTo name) : one = other := by
  -- A name of each agrees with the given one, and so with a name of the other.
  obtain ⟨known, member, same⟩ := answers
  obtain ⟨another, member', same'⟩ := answers'
  exact eq_of_key_eq one (mem_all one) other (mem_all other) known member another member'
    (same.trans same'.symm)

/-- The search for a name ends at the charset that answers to it, wherever that is listed. -/
theorem find?_eq_some_iff {name : String} {charset : Charset} :
    (all.find? fun charset => charset.names.any fun known => key known = key name)
      = some charset ↔ charset.AnswersTo name := by
  have test (charset : Charset) : (charset.names.any fun known => key known = key name) = true
      ↔ charset.AnswersTo name := by
    simp [AnswersTo]
  constructor
  · intro search
    exact (test charset).mp (by simpa using List.find?_some search)
  · intro answers
    -- Some charset is found, and only one answers.
    have listed : (all.find? fun charset =>
        charset.names.any fun known => key known = key name).isSome = true :=
      List.find?_isSome.mpr ⟨charset, mem_all charset, (test charset).mpr answers⟩
    obtain ⟨first, search⟩ := Option.isSome_iff_exists.mp listed
    have earlier : first.AnswersTo name :=
      (test first).mp (by simpa using List.find?_some search)
    rw [search, earlier.unique answers]

/-- A charset is found exactly by the names that it answers to. -/
theorem ofName_eq_ok_iff {name : String} {charset : Charset} :
    ofName name = .ok charset ↔ charset.AnswersTo name := by
  rw [← find?_eq_some_iff, ofName]
  split
  · next first search =>
    rw [search, Except.ok.injEq, Option.some.injEq]
  · next missed =>
    -- Nothing is found, and so no charset is returned either.
    simp [missed]

/-- A name that no charset answers to is refused as one that is not supported. -/
theorem ofName_eq_error {name : String} (unknown : ∀ charset : Charset, ¬charset.AnswersTo name) :
    ofName name = .error .unsupportedCharset := by
  -- If a charset were found it would answer to the name.
  rw [ofName]
  split
  · next first search =>
    exact absurd (find?_eq_some_iff.mp search) (unknown first)
  · rfl

/-- A charset is found by every text with the letters and digits of one of its names, and by no
other text; where no charset is found the name is not supported.

It is found in particular by what agrees with one of its names up to hyphens, underscores, spaces
and the size of letters. -/
theorem ofName_by_key (name : String) :
    (∀ charset : Charset, ofName name = .ok charset ↔ ∃ known ∈ charset.names, key known = key name) ∧
    ((∀ charset : Charset, ∀ known ∈ charset.names, key known ≠ key name) →
      ofName name = .error .unsupportedCharset) ∧
    ∀ charset : Charset, (∃ known ∈ charset.names, joined known = joined name) →
      ofName name = .ok charset := by
  refine ⟨fun charset => ofName_eq_ok_iff, ?_, ?_⟩
  · intro unknown
    apply ofName_eq_error
    rintro charset ⟨known, member, same⟩
    exact unknown charset known member same
  · rintro charset ⟨known, member, same⟩
    rw [ofName_eq_ok_iff]
    -- Names that agree without their marks have the same letters and digits.
    refine ⟨known, member, ?_⟩
    rw [key_eq_filter_joined, key_eq_filter_joined, same]

/-- Spaces and capitals make no difference, and a name with other digits is not known. -/
theorem ofName_by_key_spaced :
    ((∃ known ∈ latin1.names, joined known = joined " iso 8859_1 ") ∧
      ofName " iso 8859_1 " = .ok latin1) ∧
    ofName "UTF-7" = .error .unsupportedCharset := by
  -- The names are compared with each of those that are known.
  obtain ⟨-, -, documented⟩ := ofName_by_key " iso 8859_1 "
  obtain ⟨-, refused, -⟩ := ofName_by_key "UTF-7"
  have agrees : ∃ known ∈ latin1.names, joined known = joined " iso 8859_1 " := by decide +kernel
  have unknown : ∀ charset ∈ all, ∀ known ∈ charset.names, key known ≠ key "UTF-7" := by
    decide +kernel
  exact ⟨⟨agrees, documented latin1 agrees⟩,
    refused fun charset => unknown charset (mem_all charset)⟩

/-- Other marks are passed over too, so that a name may differ from all known ones in them. -/
theorem ofName_of_other_marks : ¬∀ (name : String) (charset : Charset),
    ofName name = .ok charset ↔ ∃ known ∈ charset.names, joined known = joined name := by
  intro only
  -- A full stop stands where the known name has a hyphen.
  have found : ofName "UTF.8" = .ok utf8 :=
    ofName_eq_ok_iff.mpr ⟨"UTF-8", by decide, by decide +kernel⟩
  have apart : ∀ known ∈ utf8.names, joined known ≠ joined "UTF.8" := by decide +kernel
  obtain ⟨known, member, same⟩ := (only "UTF.8" utf8).mp found
  exact apart known member same

end UniText.Charset
