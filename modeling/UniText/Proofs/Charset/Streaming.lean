import UniText.Charset.Codec

/-! Reading from a stream: a step is never revised, and only a bounded front can wait for more. -/

namespace UniText

/-- What a stream relies on when it reads characters of a bounded length one step at a time. -/
structure Streams (next : List UInt8 → Bool → Step) (longest : Nat) : Prop where
  /-- A decided step stays the same whatever follows, and whether or not the input ends. -/
  settled : ∀ bytes rest atEnd, bytes ≠ [] → (next bytes false).decoded ≠ .incomplete →
    next (bytes ++ rest) atEnd = next bytes false
  /-- A decided step covers at least one byte, and no more than a character can take. -/
  covered : ∀ bytes, bytes ≠ [] → (next bytes false).decoded ≠ .incomplete →
    0 < (next bytes false).length ∧ (next bytes false).length ≤ bytes.length ∧
      (next bytes false).length ≤ longest
  /-- An undecided step covers nothing, and waits for a character that is cut off. -/
  waiting : ∀ bytes, bytes ≠ [] → (next bytes false).decoded = .incomplete →
    (next bytes false).length = 0 ∧ bytes.length < longest
  /-- At the end of the input every step is decided, and covers some of the bytes there. -/
  ending : ∀ bytes, bytes ≠ [] → (next bytes true).decoded ≠ .incomplete ∧
    0 < (next bytes true).length ∧ (next bytes true).length ≤ bytes.length
  /-- A front that waits is not a character by itself. -/
  unfinished : ∀ bytes, bytes ≠ [] → (next bytes false).decoded = .incomplete →
    ∀ code, (next bytes true).decoded ≠ .scalar code

namespace Utf8

/-- Trail bytes that decide a step decide it in front of any other bytes too. -/
theorem trails_append {code used due : Nat} {range : UInt8 × UInt8} {bytes : List UInt8}
    (decided : (trails false code used due range bytes).decoded ≠ .incomplete)
    (rest : List UInt8) (atEnd : Bool) :
    trails atEnd code used due range (bytes ++ rest) = trails false code used due range bytes := by
  -- One trail byte is read at a time, and running out of bytes is what leaves a step undecided.
  induction due generalizing code used range bytes with
  | zero => simp [trails]
  | succ due ih =>
    cases bytes with
    | nil => simp [trails, Step.cutOff] at decided
    | cons byte bytes =>
      simp only [trails, List.cons_append] at decided ⊢
      split
      · rfl
      · next inRange =>
        rw [if_neg inRange] at decided
        exact ih decided

/-- A step over trail bytes counts those that were used before, and at most the ones due. -/
theorem length_trails {code used due : Nat} {range : UInt8 × UInt8} {bytes : List UInt8}
    {atEnd : Bool} (decided : (trails atEnd code used due range bytes).decoded ≠ .incomplete) :
    used ≤ (trails atEnd code used due range bytes).length ∧
      (trails atEnd code used due range bytes).length ≤ used + bytes.length ∧
      (trails atEnd code used due range bytes).length ≤ used + due := by
  -- Each trail byte that is read is used, and one less is due then.
  induction due generalizing code used range bytes with
  | zero => simp [trails]
  | succ due ih =>
    cases bytes with
    | nil =>
      -- Without the end in sight nothing is decided here.
      cases atEnd <;> simp [trails, Step.cutOff] at decided ⊢
    | cons byte bytes =>
      simp only [trails] at decided ⊢
      split
      · simp only [List.length_cons]
        omega
      · next inRange =>
        rw [if_neg inRange] at decided
        have bounds := ih decided
        simp only [List.length_cons]
        omega

/-- Trail bytes that leave a step undecided are fewer than are due, and cover nothing yet. -/
theorem trails_incomplete {code used due : Nat} {range : UInt8 × UInt8} {bytes : List UInt8}
    (open_ : (trails false code used due range bytes).decoded = .incomplete) :
    (trails false code used due range bytes).length = 0 ∧ bytes.length < due ∧
      (trails true code used due range bytes).decoded = .truncated := by
  -- Only running out of bytes leaves a step undecided, and at the end it cuts the step off.
  induction due generalizing code used range bytes with
  | zero => simp [trails] at open_
  | succ due ih =>
    cases bytes with
    | nil => simp [trails, Step.cutOff]
    | cons byte bytes =>
      simp only [trails] at open_ ⊢
      split
      · next outside =>
        rw [if_pos outside] at open_
        simp at open_
      · next inRange =>
        rw [if_neg inRange] at open_
        have rest := ih open_
        simp only [List.length_cons]
        exact ⟨rest.1, by omega, rest.2.2⟩

/-- At the end of the input trail bytes decide every step. -/
theorem trails_ending (code used due : Nat) (range : UInt8 × UInt8) (bytes : List UInt8) :
    (trails true code used due range bytes).decoded ≠ .incomplete := by
  -- Where the bytes run out the step is cut off, which decides it.
  induction due generalizing code used range bytes with
  | zero => simp [trails]
  | succ due ih =>
    cases bytes with
    | nil => simp [trails, Step.cutOff]
    | cons byte bytes =>
      simp only [trails]
      split
      · simp
      · exact ih _ _ _ _

/-- A lead settles the step, or begins an overlong pair, or leaves trail bytes to be read. -/
theorem next_cons (lead : UInt8) :
    (∃ step : Step, step.length = 1 ∧ step.decoded ≠ .incomplete ∧
      ∀ rest atEnd, next (lead :: rest) atEnd = step) ∨
    (∀ rest atEnd, next (lead :: rest) atEnd = overlong atEnd rest) ∨
    (∃ code due range, due ≤ 3 ∧
      ∀ rest atEnd, next (lead :: rest) atEnd = trails atEnd code 1 due range rest) := by
  -- The branches test nothing but the lead.
  have short : sequenceLength lead ≤ 4 := by
    unfold sequenceLength
    repeat' split
    all_goals omega
  by_cases none : sequenceLength lead = 0
  · exact .inl ⟨⟨.illegal, 1⟩, rfl, by simp, fun rest atEnd => by simp [next, none]⟩
  · by_cases one : sequenceLength lead = 1
    · exact .inl ⟨⟨.scalar lead.toUInt32, 1⟩, rfl, by simp, fun rest atEnd => by simp [next, one]⟩
    · by_cases pair : sequenceLength lead = 2 ∧ lead < 0xC2
      · exact .inr (.inl fun rest atEnd => by simp [next, pair])
      · -- The sequence has one trail byte at least, and three at most.
        refine .inr (.inr ⟨leadBits lead (sequenceLength lead), sequenceLength lead - 1,
          firstTrail lead, by omega, ?_⟩)
        intro rest atEnd
        simp only [next, if_neg none, if_neg one, if_neg pair]

/-- UTF-8 can be read from a stream. -/
theorem streams : Streams next 4 where
  -- The lead says which kind of step there is, and a step over trail bytes is known from them.
  settled bytes rest atEnd nonempty decided := by
    obtain ⟨lead, bytes, rfl⟩ := List.exists_cons_of_ne_nil nonempty
    rw [List.cons_append]
    rcases next_cons lead with ⟨step, -, -, same⟩ | overlongLead | ⟨code, due, range, -, more⟩
    · rw [same, same]
    · -- An overlong pair is decided by its second byte alone.
      rw [overlongLead] at decided
      rw [overlongLead, overlongLead]
      cases bytes with
      | nil => simp [overlong] at decided
      | cons byte bytes => rfl
    · rw [more] at decided
      rw [more, more, trails_append decided]
  covered bytes nonempty decided := by
    obtain ⟨lead, bytes, rfl⟩ := List.exists_cons_of_ne_nil nonempty
    rcases next_cons lead with ⟨step, one, -, same⟩ | overlongLead | ⟨code, due, range, few, more⟩
    · rw [same, one, List.length_cons]
      omega
    · rw [overlongLead] at decided ⊢
      cases bytes with
      | nil => simp [overlong] at decided
      | cons byte bytes =>
        simp only [overlong, List.length_cons]
        split <;> simp
    · rw [more] at decided ⊢
      have bounds := length_trails decided
      rw [List.length_cons]
      omega
  waiting bytes nonempty open_ := by
    obtain ⟨lead, bytes, rfl⟩ := List.exists_cons_of_ne_nil nonempty
    rcases next_cons lead with
      ⟨step, -, decided, same⟩ | overlongLead | ⟨code, due, range, few, more⟩
    · rw [same] at open_
      exact absurd open_ decided
    · rw [overlongLead] at open_ ⊢
      cases bytes with
      | nil => simp [overlong]
      | cons byte bytes =>
        simp only [overlong] at open_
        split at open_ <;> simp at open_
    · -- The lead and fewer trail bytes than are due make less than a whole character.
      rw [more] at open_ ⊢
      have waits := trails_incomplete open_
      rw [List.length_cons]
      omega
  ending bytes nonempty := by
    obtain ⟨lead, bytes, rfl⟩ := List.exists_cons_of_ne_nil nonempty
    rcases next_cons lead with
      ⟨step, one, decided, same⟩ | overlongLead | ⟨code, due, range, -, more⟩
    · rw [same, one, List.length_cons]
      exact ⟨decided, by omega, by omega⟩
    · rw [overlongLead]
      cases bytes with
      | nil => simp [overlong]
      | cons byte bytes =>
        simp only [overlong, List.length_cons]
        split <;> simp
    · rw [more]
      have decided := trails_ending code 1 due range bytes
      have bounds := length_trails decided
      rw [List.length_cons]
      exact ⟨decided, by omega, by omega⟩
  unfinished bytes nonempty open_ code := by
    obtain ⟨lead, bytes, rfl⟩ := List.exists_cons_of_ne_nil nonempty
    rcases next_cons lead with ⟨step, -, decided, same⟩ | overlongLead | ⟨bits, due, range, -, more⟩
    · rw [same] at open_
      exact absurd open_ decided
    · rw [overlongLead] at open_ ⊢
      cases bytes with
      | nil => simp [overlong]
      | cons byte bytes =>
        simp only [overlong] at open_
        split at open_ <;> simp at open_
    · rw [more] at open_ ⊢
      rw [(trails_incomplete open_).2.2]
      simp

end Utf8

namespace Utf16

/-- A unit is decided by itself or together with the one after it. -/
theorem combine_decided (unit : UInt16) (following : Option UInt16) :
    (combine unit following).decoded ≠ .incomplete ∧ 0 < (combine unit following).length ∧
      (combine unit following).length ≤ 1 + following.toList.length := by
  -- Only a pair covers the second unit, and only a known unit makes a pair.
  cases following with
  | none =>
    simp only [combine]
    split <;> simp
  | some trail =>
    simp only [combine]
    split
    · simp
    · split <;> simp

/-- A lead without its partner is no character. -/
theorem combine_lead {unit : UInt16} (lead : CodePoint.isLead unit.toUInt32 = true) :
    combine unit none = ⟨.surrogate unit.toUInt32, 1⟩ := by
  -- A lead is a surrogate, and there is nothing for it to join with.
  have half : CodePoint.isSurrogate unit.toUInt32 = true := by simp [CodePoint.isSurrogate_eq, lead]
  simp [combine, half]

/-- With four bytes at hand the step is known. -/
theorem next_four (order : Endian) (first second third fourth : UInt8) (rest : List UInt8)
    (atEnd : Bool) : next order (first :: second :: third :: fourth :: rest) atEnd =
      ⟨(combine (unitOf order first second) (some (unitOf order third fourth))).decoded,
        (combine (unitOf order first second) (some (unitOf order third fourth))).length * 2⟩ := by
  -- The second unit is whole, so that the end of the input makes no difference.
  simp [next]

/-- With one unit at hand a lead waits, and every other unit stands alone. -/
theorem next_two (order : Endian) (first second : UInt8) {rest : List UInt8}
    (short : rest.length < 2) (atEnd : Bool) : next order (first :: second :: rest) atEnd =
      if !atEnd && CodePoint.isLead (unitOf order first second).toUInt32 then ⟨.incomplete, 0⟩
      else ⟨(combine (unitOf order first second) none).decoded,
        (combine (unitOf order first second) none).length * 2⟩ := by
  -- At most one byte is left for a second unit.
  match rest, short with
  | [], _ => simp [next]
  | [_], _ => simp [next]

/-- A unit that is no lead stands alone whatever follows. -/
theorem combine_of_not_lead {unit : UInt16} (other : CodePoint.isLead unit.toUInt32 = false)
    (following : Option UInt16) : combine unit following = combine unit none := by
  cases following <;> simp [combine, other]

/-- Some bytes hold less than one unit, or one unit, or two at least. -/
theorem bytes_cases {bytes : List UInt8} (nonempty : bytes ≠ []) :
    (∃ byte, bytes = [byte]) ∨
    (∃ first second more, bytes = first :: second :: more ∧ more.length < 2) ∨
    (∃ first second third fourth more, bytes = first :: second :: third :: fourth :: more) := by
  -- An odd byte behind a single unit does not make another one.
  match bytes with
  | [] => exact absurd rfl nonempty
  | [byte] => exact .inl ⟨byte, rfl⟩
  | [first, second] => exact .inr (.inl ⟨first, second, [], rfl, by simp⟩)
  | [first, second, third] => exact .inr (.inl ⟨first, second, [third], rfl, by simp⟩)
  | first :: second :: third :: fourth :: more =>
    exact .inr (.inr ⟨first, second, third, fourth, more, rfl⟩)

/-- A unit that is decided before the next one arrives is no lead. -/
theorem not_lead_of_decided {order : Endian} {first second : UInt8} {more : List UInt8}
    (short : more.length < 2)
    (decided : (next order (first :: second :: more) false).decoded ≠ .incomplete) :
    CodePoint.isLead (unitOf order first second).toUInt32 = false := by
  -- A lead with less than a unit behind it would wait.
  rw [next_two order first second short] at decided
  cases lead : CodePoint.isLead (unitOf order first second).toUInt32 with
  | false => rfl
  | true => simp [lead] at decided

/-- UTF-16 can be read from a stream. -/
theorem streams (order : Endian) : Streams (next order) 4 where
  -- There is less than a unit at hand, or one unit, or two of them.
  settled bytes rest atEnd nonempty decided := by
    rcases bytes_cases nonempty with
      ⟨byte, rfl⟩ | ⟨first, second, more, rfl, short⟩ | ⟨_, _, _, _, _, rfl⟩
    · simp [next, Step.cutOff] at decided
    · -- The unit is no lead, so that it stands alone whatever follows.
      have other := not_lead_of_decided short decided
      rw [next_two order first second short, List.cons_append, List.cons_append]
      by_cases still : (more ++ rest).length < 2
      · simp [next_two order first second still, other]
      · have nonempty : more ++ rest ≠ [] := by
          intro empty
          simp [empty] at still
        rcases bytes_cases nonempty with
          ⟨_, same⟩ | ⟨third, fourth, others, same, _⟩ | ⟨third, fourth, _, _, _, same⟩
        · simp [same] at still
        -- With more than one unit at hand, the step is still about the first of them.
        all_goals
          rw [same, next_four, combine_of_not_lead other]
          simp [other]
    · simp only [List.cons_append, next_four]
  covered bytes nonempty decided := by
    rcases bytes_cases nonempty with
      ⟨byte, rfl⟩ | ⟨first, second, more, rfl, short⟩ | ⟨first, second, third, fourth, _, rfl⟩
    · simp [next, Step.cutOff] at decided
    · have other := not_lead_of_decided short decided
      have bounds := combine_decided (unitOf order first second) none
      simp only [next_two order first second short, other, Bool.and_false, Bool.false_eq_true,
        if_false, Option.toList_none, List.length_nil, List.length_cons] at bounds ⊢
      omega
    · have bounds := combine_decided (unitOf order first second) (some (unitOf order third fourth))
      simp only [next_four, Option.toList_some, List.length_cons, List.length_nil] at bounds ⊢
      omega
  waiting bytes nonempty open_ := by
    rcases bytes_cases nonempty with
      ⟨byte, rfl⟩ | ⟨first, second, more, rfl, short⟩ | ⟨first, second, third, fourth, _, rfl⟩
    · simp [next, Step.cutOff]
    · rw [next_two order first second short] at open_ ⊢
      split at open_
      · next waits =>
        -- The unit and less than another one are fewer than four bytes.
        rw [if_pos waits]
        simp only [List.length_cons, true_and]
        omega
      · exact absurd open_ (combine_decided ..).1
    · rw [next_four] at open_
      exact absurd open_ (combine_decided ..).1
  ending bytes nonempty := by
    rcases bytes_cases nonempty with
      ⟨byte, rfl⟩ | ⟨first, second, more, rfl, short⟩ | ⟨first, second, third, fourth, _, rfl⟩
    · simp [next, Step.cutOff]
    · have bounds := combine_decided (unitOf order first second) none
      simp only [next_two order first second short, Bool.not_true, Bool.false_and,
        Bool.false_eq_true, if_false, Option.toList_none, List.length_nil,
        List.length_cons] at bounds ⊢
      exact ⟨bounds.1, by omega, by omega⟩
    · have bounds := combine_decided (unitOf order first second) (some (unitOf order third fourth))
      simp only [next_four, Option.toList_some, List.length_cons, List.length_nil] at bounds ⊢
      exact ⟨bounds.1, by omega, by omega⟩
  unfinished bytes nonempty open_ code := by
    rcases bytes_cases nonempty with
      ⟨byte, rfl⟩ | ⟨first, second, more, rfl, short⟩ | ⟨first, second, third, fourth, _, rfl⟩
    · simp [next, Step.cutOff]
    · -- Only a lead waits, and alone it is a surrogate.
      rw [next_two order first second short] at open_ ⊢
      split at open_
      · next waits =>
        simp only [Bool.not_false, Bool.true_and] at waits
        simp [combine_lead waits]
      · exact absurd open_ (combine_decided ..).1
    · rw [next_four] at open_
      exact absurd open_ (combine_decided ..).1

end Utf16

namespace Utf32

/-- A unit is decided by itself. -/
theorem classify_ne_incomplete (unit : UInt32) : classify unit ≠ .incomplete := by
  -- A whole unit is never waited for.
  unfold classify
  repeat' split
  all_goals simp

/-- Fewer than four bytes are a unit that is cut off. -/
theorem next_short (order : Endian) {bytes : List UInt8} (short : bytes.length < 4)
    (atEnd : Bool) : next order bytes atEnd = Step.cutOff atEnd bytes.length := by
  -- Three bytes are the most that are cut off.
  match bytes, short with
  | [], _ | [_], _ | [_, _], _ | [_, _, _], _ => rfl

/-- Four bytes are a whole unit, and whatever follows makes no difference. -/
theorem next_append (order : Endian) {bytes : List UInt8} (whole : 4 ≤ bytes.length)
    (rest : List UInt8) (atEnd : Bool) : next order (bytes ++ rest) atEnd = next order bytes false ∧
      (next order bytes false).length = 4 ∧ (next order bytes false).decoded ≠ .incomplete := by
  -- The first four bytes decide the step.
  match bytes, whole with
  | _ :: _ :: _ :: _ :: _, _ => exact ⟨rfl, rfl, classify_ne_incomplete _⟩

/-- UTF-32 can be read from a stream. -/
theorem streams (order : Endian) : Streams (next order) 4 where
  -- Four bytes are decided at once, and fewer of them wait for the others.
  settled bytes rest atEnd _ decided := by
    by_cases whole : 4 ≤ bytes.length
    · exact (next_append order whole rest atEnd).1
    · simp [next_short order (Nat.not_le.mp whole), Step.cutOff] at decided
  covered bytes _ decided := by
    by_cases whole : 4 ≤ bytes.length
    · rw [(next_append order whole [] false).2.1]
      omega
    · simp [next_short order (Nat.not_le.mp whole), Step.cutOff] at decided
  waiting bytes _ open_ := by
    by_cases whole : 4 ≤ bytes.length
    · exact absurd open_ (next_append order whole [] false).2.2
    · simp only [next_short order (Nat.not_le.mp whole), Step.cutOff, Bool.false_eq_true, if_false,
        true_and]
      omega
  ending bytes nonempty := by
    have positive := List.length_pos_iff.mpr nonempty
    by_cases whole : 4 ≤ bytes.length
    · have known := next_append order whole [] true
      rw [List.append_nil] at known
      rw [known.1]
      exact ⟨known.2.2, by omega, by omega⟩
    · rw [next_short order (Nat.not_le.mp whole)]
      exact ⟨by simp [Step.cutOff], positive, Nat.le_refl _⟩
  unfinished bytes _ open_ code := by
    by_cases whole : 4 ≤ bytes.length
    · exact absurd open_ (next_append order whole [] false).2.2
    · simp [next_short order (Nat.not_le.mp whole), Step.cutOff]

end Utf32

namespace SingleByte

/-- A byte is decided by itself. -/
theorem next_cons (limit : Nat) (byte : UInt8) : ∃ step : Step, step.length = 1 ∧
    step.decoded ≠ .incomplete ∧ ∀ rest atEnd, next limit (byte :: rest) atEnd = step := by
  -- The byte is compared with the limit, and nothing else is looked at.
  by_cases mapped : byte.toNat ≤ limit
  · exact ⟨⟨.scalar byte.toUInt32, 1⟩, rfl, by simp, fun _ _ => by simp [next, mapped]⟩
  · exact ⟨⟨.illegal, 1⟩, rfl, by simp, fun _ _ => by simp [next, mapped]⟩

/-- Charsets of single bytes can be read from a stream. -/
theorem streams (limit : Nat) : Streams (next limit) 1 where
  -- Every byte is a character or an error by itself, so that no step ever waits.
  settled bytes rest atEnd nonempty _ := by
    obtain ⟨byte, bytes, rfl⟩ := List.exists_cons_of_ne_nil nonempty
    obtain ⟨step, -, -, same⟩ := next_cons limit byte
    rw [List.cons_append, same, same]
  covered bytes nonempty _ := by
    obtain ⟨byte, bytes, rfl⟩ := List.exists_cons_of_ne_nil nonempty
    obtain ⟨step, one, -, same⟩ := next_cons limit byte
    rw [same, one, List.length_cons]
    omega
  waiting bytes nonempty open_ := by
    obtain ⟨byte, bytes, rfl⟩ := List.exists_cons_of_ne_nil nonempty
    obtain ⟨step, -, decided, same⟩ := next_cons limit byte
    rw [same] at open_
    exact absurd open_ decided
  ending bytes nonempty := by
    obtain ⟨byte, bytes, rfl⟩ := List.exists_cons_of_ne_nil nonempty
    obtain ⟨step, one, decided, same⟩ := next_cons limit byte
    rw [same, one, List.length_cons]
    exact ⟨decided, by omega, by omega⟩
  unfinished bytes nonempty open_ := by
    obtain ⟨byte, bytes, rfl⟩ := List.exists_cons_of_ne_nil nonempty
    obtain ⟨step, -, decided, same⟩ := next_cons limit byte
    rw [same] at open_
    exact absurd open_ decided

end SingleByte

/-- Every charset can be read from a stream. -/
theorem Charset.streams (charset : Charset) : Streams charset.next charset.maxLength := by
  -- ASCII and Latin-1 differ in their last byte only.
  cases charset with
  | utf8 => exact Utf8.streams
  | utf16 order => exact Utf16.streams order
  | utf32 order => exact Utf32.streams order
  | usAscii => exact SingleByte.streams 0x7F
  | latin1 => exact SingleByte.streams 0xFF

/-- Before the end of the input a step is settled for good, or waits for less than a character.

A settled step covers one byte at least, and whatever comes later it stays the same. A step that
waits covers nothing; should the input end there, it is no scalar value, and covers a byte. -/
theorem Charset.settled_or_waiting (charset : Charset) {bytes : List UInt8} (nonempty : bytes ≠ [])
    (rest : List UInt8) :
    let step := charset.next bytes false
    let last := charset.next bytes true
    (step.decoded ≠ .incomplete →
      1 ≤ step.length ∧ step.length ≤ min bytes.length charset.maxLength ∧
      ∀ atEnd, charset.next (bytes ++ rest) atEnd = step) ∧
    (step.decoded = .incomplete →
      step.length = 0 ∧ bytes.length < charset.maxLength ∧
      (∀ code, last.decoded ≠ .scalar code) ∧ 1 ≤ last.length ∧ last.length ≤ bytes.length) := by
  intro step last
  have reads := charset.streams
  constructor
  · intro settled
    obtain ⟨positive, inside, bounded⟩ := reads.covered bytes nonempty settled
    refine ⟨positive, Nat.le_min.mpr ⟨inside, bounded⟩, ?_⟩
    intro atEnd
    exact reads.settled bytes rest atEnd nonempty settled
  · intro waits
    obtain ⟨nothing, short⟩ := reads.waiting bytes nonempty waits
    -- What the end of the input makes of bytes that waited is decided there, but no character.
    obtain ⟨-, positive, inside⟩ := reads.ending bytes nonempty
    exact ⟨nothing, short, reads.unfinished bytes nonempty waits, positive, inside⟩

/-- A lead surrogate waits even with half a unit behind it, and a trail behind it settles the pair. -/
theorem Charset.settled_or_waiting_face :
    let part : List UInt8 := [0xD8, 0x3D, 0xDE]
    let last := (utf16 .big).next part true
    let pair := (utf16 .big).next (part ++ [0x00]) false
    ((utf16 .big).next part false = ⟨.incomplete, 0⟩ ∧ part.length < 4 ∧
      last.decoded ≠ .scalar 0x1F600 ∧ 1 ≤ last.length ∧ last.length ≤ 3) ∧
    pair = ⟨.scalar 0x1F600, 4⟩ ∧ (utf16 .big).next (part ++ [0x00] ++ [0xD8]) true = pair := by
  -- Half a trail is not yet a trail, and the pair is whole with the other half.
  intro part last pair
  have waits : (utf16 .big).next part false = ⟨.incomplete, 0⟩ := by decide +kernel
  have whole : pair = ⟨.scalar 0x1F600, 4⟩ := by decide +kernel
  have begun : part ≠ [] := by decide
  have complete : part ++ [0x00] ≠ [] := by decide
  obtain ⟨-, waiting⟩ := (utf16 .big).settled_or_waiting begun []
  obtain ⟨settled, -⟩ := (utf16 .big).settled_or_waiting complete [0xD8]
  obtain ⟨-, short, unfinished, positive, inside⟩ := waiting (congrArg Step.decoded waits)
  have apart : pair.decoded ≠ .incomplete := by simp [whole]
  exact ⟨⟨waits, short, unfinished 0x1F600, positive, inside⟩, whole, (settled apart).2.2 true⟩

end UniText
