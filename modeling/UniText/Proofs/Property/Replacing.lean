import UniText.Proofs.Property.Listed

/-! Replacing by single steps: it comes to an end, and in any order to the full decomposition. -/

namespace UniText

namespace PropertyTable

/-- One code point of a text is replaced by a single step of its decomposition. -/
inductive Replaces (table : PropertyTable) (equivalence : Equivalence) :
    List CodePoint → List CodePoint → Prop
  | here {code : CodePoint} {codes : List CodePoint} (rest : List CodePoint)
    (step : table.decomposeOnce? equivalence code = some codes) :
    Replaces table equivalence (code :: rest) (codes ++ rest)
  | later (code : CodePoint) {text after : List CodePoint}
    (further : Replaces table equivalence text after) :
    Replaces table equivalence (code :: text) (code :: after)

/-- No code point of a text has a single step. -/
def Finished (table : PropertyTable) (equivalence : Equivalence) (text : List CodePoint) : Prop :=
  ∀ code ∈ text, table.decomposeOnce? equivalence code = none

/-- However a text is replaced, step by step, this comes to an end. -/
def Terminates (table : PropertyTable) (equivalence : Equivalence) (text : List CodePoint) :
    Prop :=
  Acc (Function.swap (table.Replaces equivalence)) text

variable {table : PropertyTable} {equivalence : Equivalence}

/-- The single step of a syllable gives two parts that join to it. -/
theorem decomposeOnce?_of_syllable {code : CodePoint}
    (syllable : Hangul.isSyllable code = true) : ∃ first second,
      table.decomposeOnce? equivalence code = some [first, second] ∧
        Hangul.join first second = some code := by
  have joined := Hangul.join_split syllable
  -- What the two parts are does not matter from here on.
  cases parts : Hangul.split code with
  | mk first second =>
    rw [parts] at joined
    exact ⟨first, second, by rw [decomposeOnce?, if_pos syllable, parts], joined⟩

/-- The single step of any other code point gives its mapping. -/
theorem decomposeOnce?_of_plain {code : CodePoint} (plain : Hangul.isSyllable code = false) :
    table.decomposeOnce? equivalence code = table.mapping? equivalence (table.record code) := by
  rw [decomposeOnce?, plain, if_neg Bool.false_ne_true]

/-- A code point that has no single step is indivisible. -/
theorem indivisible_of_decomposeOnce? {code : CodePoint}
    (none_ : table.decomposeOnce? equivalence code = none) :
    table.Indivisible equivalence code := by
  -- A syllable always splits, so only a plain code point can have no step.
  cases syllable : Hangul.isSyllable code with
  | true =>
    obtain ⟨first, second, step, -⟩ := decomposeOnce?_of_syllable syllable
    rw [step] at none_
    exact absurd none_ (Option.some_ne_none _)
  | false => exact ⟨syllable, (decomposeOnce?_of_plain syllable).symm.trans none_⟩

/-- What holds of a code point if it holds of all that its single step gives holds of all. -/
theorem Checked.step_induction (checked : table.Checked)
    (letters : ∀ code, Hangul.isLetter code = true → (table.record code).mappingLength = 0)
    (equivalence : Equivalence) {motive : CodePoint → Prop}
    (step : ∀ code, (∀ codes, table.decomposeOnce? equivalence code = some codes →
      ∀ other ∈ codes, motive other) → motive code) (code : CodePoint) : motive code := by
  have letter {code : CodePoint} (isLetter_ : Hangul.isLetter code = true) : motive code := by
    refine step code fun codes stepped => ?_
    rw [decomposeOnce?_of_plain (Hangul.isSyllable_of_isLetter isLetter_)] at stepped
    -- Without a mapping there is no step, and nothing that the property would have to hold of.
    simp [mapping?, letters code isLetter_] at stepped
  -- A syllable that is closed steps to an open one, which has fewer letters.
  have syllable (code : CodePoint) (isSyllable_ : Hangul.isSyllable code = true) :
      motive code := by
    induction count : (Hangul.letters code).length using Nat.strongRecOn generalizing code with
    | ind _ ih =>
      refine step code fun codes stepped other member => ?_
      obtain ⟨first, second, parts, joined⟩ := decomposeOnce?_of_syllable isSyllable_
      obtain rfl := Option.some_inj.mp (parts.symm.trans stepped)
      simp only [List.mem_cons, List.not_mem_nil, or_false] at member
      rcases (Hangul.letters_of_join joined).2 with ⟨leading, vowel, -⟩ | ⟨open_, trailing, same⟩
      · rcases member with rfl | rfl
        · exact letter (by simp [Hangul.isLetter, leading])
        · exact letter (by simp [Hangul.isLetter, vowel])
      · rcases member with rfl | rfl
        · refine ih _ ?_ other open_ rfl
          rw [← count, same, List.length_append]
          exact Nat.lt_succ_self _
        · exact letter (by simp [Hangul.isLetter, trailing])
  induction code using checked.mapping_induction with
  | syllable code isSyllable_ => exact syllable code isSyllable_
  | mapped code plain ih =>
    refine step code fun codes stepped other member => ?_
    rw [decomposeOnce?_of_plain plain] at stepped
    obtain ⟨rfl, -⟩ := checked.mapping?_ne_nil stepped
    exact ih other member

/-- A replacement in two texts in a row is one in the first or in the second. -/
theorem Replaces.append_cases {front back after : List CodePoint}
    (replaced : table.Replaces equivalence (front ++ back) after) :
    (∃ first, table.Replaces equivalence front first ∧ after = first ++ back) ∨
      ∃ second, table.Replaces equivalence back second ∧ after = front ++ second := by
  -- Induction on the front: the replaced place is its head, further inside it, or past its end.
  induction front generalizing after with
  | nil => exact .inr ⟨after, replaced, rfl⟩
  | cons code front ih =>
    cases replaced with
    | here _ step => exact .inl ⟨_, .here front step, (List.append_assoc ..).symm⟩
    | later _ further =>
      rcases ih further with ⟨first, inFront, rfl⟩ | ⟨second, inBack, rfl⟩
      · exact .inl ⟨_, .later code inFront, rfl⟩
      · exact .inr ⟨_, inBack, rfl⟩

/-- Replacing in two texts in a row comes to an end if it does in each of them. -/
theorem Terminates.append {front back : List CodePoint} (one : table.Terminates equivalence front)
    (two : table.Terminates equivalence back) : table.Terminates equivalence (front ++ back) := by
  -- Each step is one in one of the texts, while the other stays as it is.
  induction one generalizing back with
  | intro front _ inFront =>
    induction two with
    | intro back ends inBack =>
      refine .intro _ fun after replaced => ?_
      rcases replaced.append_cases with ⟨first, step, rfl⟩ | ⟨second, step, rfl⟩
      · exact inFront first step (.intro back ends)
      · exact inBack second step

/-- Replacing in a text comes to an end if it does for each of its code points. -/
theorem terminates_of_forall {text : List CodePoint}
    (each : ∀ code ∈ text, table.Terminates equivalence [code]) :
    table.Terminates equivalence text := by
  -- Two texts that terminate still do when joined, and a text is its code points joined.
  induction text with
  | nil => exact .intro _ fun after replaced => nomatch replaced
  | cons code text ih =>
    rw [List.forall_mem_cons] at each
    exact each.1.append (ih each.2)

/-- Replacing comes to an end for every code point. -/
theorem Checked.terminates_singleton (checked : table.Checked)
    (letters : ∀ code, Hangul.isLetter code = true → (table.record code).mappingLength = 0)
    (equivalence : Equivalence) (code : CodePoint) : table.Terminates equivalence [code] := by
  -- Induction along the mapping: what one code point steps to terminates piece by piece.
  induction code using checked.step_induction letters equivalence with
  | step code ih =>
    refine .intro _ fun after replaced => ?_
    cases replaced with
    | here _ stepped =>
      rw [List.append_nil]
      exact terminates_of_forall (ih _ stepped)
    | later _ further => exact nomatch further

/-- A text is finished, or something in it can be replaced. -/
theorem finished_or_replaces (table : PropertyTable) (equivalence : Equivalence)
    (text : List CodePoint) :
    table.Finished equivalence text ∨ ∃ after, table.Replaces equivalence text after := by
  induction text with
  | nil => exact .inl (by simp [Finished])
  | cons code text ih =>
    -- Whatever comes first can be replaced, or else something behind it.
    cases stepped : table.decomposeOnce? equivalence code with
    | some codes => exact .inr ⟨_, .here text stepped⟩
    | none =>
      rcases ih with finished | ⟨after, further⟩
      · exact .inl (List.forall_mem_cons.mpr ⟨stepped, finished⟩)
      · exact .inr ⟨_, .later code further⟩

/-- A text for which replacing comes to an end can be replaced until it is finished. -/
theorem Terminates.exists_finished {text : List CodePoint}
    (terminates : table.Terminates equivalence text) :
    ∃ after, Relation.ReflTransGen (table.Replaces equivalence) text after ∧
      table.Finished equivalence after := by
  -- The induction is on the replacements that can still be made.
  induction terminates with
  | intro text _ ih =>
    rcases table.finished_or_replaces equivalence text with finished | ⟨next, replaced⟩
    · exact ⟨text, .refl, finished⟩
    · obtain ⟨after, further, finished⟩ := ih next replaced
      exact ⟨after, .head replaced further, finished⟩

/-- A code point stands for what its single step gives, fully decomposed. -/
theorem Checked.expand_of_decomposeOnce? (checked : table.Checked)
    (letters : ∀ code, Hangul.isLetter code = true → (table.record code).mappingLength = 0)
    {code : CodePoint} {codes : List CodePoint}
    (step : table.decomposeOnce? equivalence code = some codes) :
    table.expand equivalence code = codes.flatMap (table.expand equivalence) := by
  cases syllable : Hangul.isSyllable code with
  | true =>
    obtain ⟨first, second, parts, joined⟩ := decomposeOnce?_of_syllable syllable
    obtain rfl := Option.some_inj.mp (parts.symm.trans step)
    -- A syllable of three letters steps to one of two, which stands for the same letters.
    rw [checked.expand_of_join letters equivalence joined]
    simp
  | false =>
    rw [decomposeOnce?_of_plain syllable] at step
    exact checked.expand_of_mapped syllable step

/-- One replacement does not change what a text fully decomposes to. -/
theorem Checked.flatMap_expand_of_replaces_once (checked : table.Checked)
    (letters : ∀ code, Hangul.isLetter code = true → (table.record code).mappingLength = 0)
    {text after : List CodePoint} (replaced : table.Replaces equivalence text after) :
    after.flatMap (table.expand equivalence) = text.flatMap (table.expand equivalence) := by
  -- The replaced code point and its replacement expand alike; the rest is untouched.
  induction replaced with
  | here rest step =>
    rw [List.flatMap_append, List.flatMap_cons, checked.expand_of_decomposeOnce? letters step]
  | later code _ ih => rw [List.flatMap_cons, List.flatMap_cons, ih]

/-- Replacing does not change what a text fully decomposes to. -/
theorem Checked.flatMap_expand_of_replaces (checked : table.Checked)
    (letters : ∀ code, Hangul.isLetter code = true → (table.record code).mappingLength = 0)
    {text after : List CodePoint}
    (replaced : Relation.ReflTransGen (table.Replaces equivalence) text after) :
    after.flatMap (table.expand equivalence) = text.flatMap (table.expand equivalence) := by
  -- The expansion is the invariant of the run: no single replacement changes it.
  induction replaced with
  | refl => rfl
  | tail _ step ih => rw [checked.flatMap_expand_of_replaces_once letters step, ih]

/-- A finished text stands for itself. -/
theorem Checked.flatMap_expand_of_finished (checked : table.Checked) {text : List CodePoint}
    (finished : table.Finished equivalence text) :
    text.flatMap (table.expand equivalence) = text := by
  -- No code point of a finished text has a step, so each expands to itself.
  have alone : ∀ code ∈ text, table.expand equivalence code = [code] := by
    intro code member
    exact checked.expand_of_indivisible (indivisible_of_decomposeOnce? (finished code member))
  rw [List.flatMap_congr alone, List.flatMap_singleton']

/-- A code point has a full decomposition exactly if it has a single step. -/
theorem decomposeFully?_eq (table : PropertyTable) (equivalence : Equivalence)
    (code : CodePoint) : table.decomposeFully? equivalence code
      = (table.decomposeOnce? equivalence code).map fun _ => table.expand equivalence code := by
  -- The function looks for a first step where `decomposeOnce?` does, in a syllable and in a record.
  rw [decomposeFully?]
  cases syllable : Hangul.isSyllable code with
  | true =>
    obtain ⟨first, second, parts, -⟩ := decomposeOnce?_of_syllable syllable
    rw [parts]
    rfl
  | false =>
    rw [decomposeOnce?_of_plain syllable]
    cases table.mapping? equivalence (table.record code) with
    | none => rfl
    | some codes => rfl

/-- Replacing code points by single steps leads to the full decomposition, in whatever order.

It always comes to an end, it can go on to the full decomposition from wherever it has led, and it
is finished there and nowhere else. Only a code point with a single step has a full decomposition. -/
theorem replaces_to_expand {bytes : List UInt8} (loaded : load bytes = .ok table)
    (letters : ∀ code, Hangul.isLetter code = true → (table.record code).mappingLength = 0)
    (equivalence : Equivalence) (code : CodePoint) :
    (∀ text, table.Terminates equivalence text) ∧
    (∀ text, Relation.ReflTransGen (table.Replaces equivalence) [code] text →
      Relation.ReflTransGen (table.Replaces equivalence) text (table.expand equivalence code) ∧
        (table.Finished equivalence text ↔ text = table.expand equivalence code)) ∧
    table.decomposeFully? equivalence code
      = (table.decomposeOnce? equivalence code).map fun _ => table.expand equivalence code := by
  have checked := checked_of_load loaded
  have terminates (text : List CodePoint) : table.Terminates equivalence text :=
    terminates_of_forall fun code _ => checked.terminates_singleton letters equivalence code
  -- Where replacing has finished, the text is what the code point stands for.
  have result {text : List CodePoint}
      (replaced : Relation.ReflTransGen (table.Replaces equivalence) [code] text)
      (finished : table.Finished equivalence text) : text = table.expand equivalence code := by
    rw [← checked.flatMap_expand_of_finished finished,
      checked.flatMap_expand_of_replaces letters replaced, List.flatMap_singleton]
  refine ⟨terminates, fun text replaced => ?_, ?_⟩
  · -- Going on for as long as possible ends at the only finished text that can be reached.
    obtain ⟨after, further, finished⟩ := (terminates text).exists_finished
    have same := result (replaced.trans further) finished
    subst same
    exact ⟨further, result replaced, fun same => same ▸ finished⟩
  · exact table.decomposeFully?_eq equivalence code

end PropertyTable

namespace Parenthesized

/-- A word in parentheses as one character, which stands for syllables of two and three letters. -/
def entries : List (CodePoint × Record) := [(0x321D, ⟨0, .empty, .compatible, 4, 0⟩)]

/-- The parentheses and the syllables. -/
def mapping : List CodePoint := [0x28, 0xC624, 0xC804, 0x29]

/-- The properties as a table. -/
def table : PropertyTable := Listed.table entries mapping []

/-- The properties can be stored. -/
theorem fits : Listed.Fits entries mapping [] where
  -- The lists are short and closed, so each condition runs.
  inside := by decide
  few := by decide
  small := by decide
  mapped := by decide
  targets := by decide
  ascending := by decide
  composable := by decide

/-- The properties are loaded from their stored form. -/
theorem load_bytes : PropertyTable.load (Listed.bytes entries mapping []) = .ok table :=
  Listed.load_bytes fits (by decide)

/-- The letters of syllables have no mapping. -/
theorem letters (code : CodePoint) (letter : Hangul.isLetter code = true) :
    (table.record code).mappingLength = 0 :=
  (Listed.coherent fits (by decide) (by decide)).letters code letter

/-- The word stands for its letters between the parentheses. -/
theorem expand_word : table.expand .compatibility 0x321D
    = [0x28, 0x110B, 0x1169, 0x110C, 0x1165, 0x11AB, 0x29] := by
  have checked := PropertyTable.checked_of_load load_bytes
  have mapped : table.mapping? .compatibility (table.record 0x321D) = some mapping := by
    rw [PropertyTable.mapping?, table, Listed.record_eq fits, Listed.mappingOf_eq]
    rfl
  have opening : table.expand .compatibility 0x28 = [0x28] :=
    Listed.expand_of_unmapped fits (by decide) .compatibility (by decide) (by decide)
  have closing : table.expand .compatibility 0x29 = [0x29] :=
    Listed.expand_of_unmapped fits (by decide) .compatibility (by decide) (by decide)
  -- The first syllable is open, and the second one has a trailing consonant.
  have first : table.expand .compatibility 0xC624 = [0x110B, 0x1169] := by
    rw [checked.expand_of_syllable _ (by decide)]
    decide
  have second : table.expand .compatibility 0xC804 = [0x110C, 0x1165, 0x11AB] := by
    rw [checked.expand_of_syllable _ (by decide)]
    decide
  rw [checked.expand_of_mapped (by decide) mapped]
  simp [mapping, opening, closing, first, second]

/-- In whatever order the word is taken apart, its letters remain between the parentheses. -/
theorem replaces_to_expand_word :
    PropertyTable.load (Listed.bytes entries mapping []) = .ok table ∧
      (∀ code, Hangul.isLetter code = true → (table.record code).mappingLength = 0) ∧
      ∀ text, Relation.ReflTransGen (table.Replaces .compatibility) [0x321D] text →
        (table.Finished .compatibility text ↔
          text = [0x28, 0x110B, 0x1169, 0x110C, 0x1165, 0x11AB, 0x29]) := by
  -- Confluence at one code point: the two finished ends agree, and the table gives that end.
  obtain ⟨-, confluent, -⟩ :=
    PropertyTable.replaces_to_expand load_bytes letters .compatibility 0x321D
  rw [expand_word] at confluent
  exact ⟨load_bytes, letters, fun text replaced => (confluent text replaced).2⟩

end Parenthesized

end UniText
