import Mathlib.Order.Bounds.Basic
import UniText.Converter.Fixed
import UniText.Proofs.Charset.CutOff

/-! Terminators: the first zero unit of some bytes, and what is selected where there is none. -/

namespace UniText

namespace Charset

/-- A whole unit of zero bytes stands at a place of some bytes. -/
def ZeroUnitAt (charset : Charset) (bytes : List UInt8) (place : Nat) : Prop :=
  charset.minLength ∣ place ∧ place + charset.minLength ≤ bytes.length ∧
    ∀ byte ∈ (bytes.drop place).take charset.minLength, byte = 0

instance (charset : Charset) (bytes : List UInt8) (place : Nat) :
    Decidable (charset.ZeroUnitAt bytes place) :=
  inferInstanceAs (Decidable (_ ∧ _ ∧ _))

/-- A unit takes one byte at least. -/
theorem minLength_pos (charset : Charset) : 0 < charset.minLength := by
  cases charset <;> simp [minLength]

variable {charset : Charset} {bytes : List UInt8}

/-- Behind the first unit the zero units are those of the bytes that are left. -/
theorem zeroUnitAt_add_iff (enough : charset.minLength ≤ bytes.length) {place : Nat} :
    charset.ZeroUnitAt bytes (charset.minLength + place)
      ↔ charset.ZeroUnitAt (bytes.drop charset.minLength) place := by
  -- To leave out the first unit moves every place by its length.
  unfold ZeroUnitAt
  rw [Nat.dvd_add_right (Nat.dvd_refl _), List.drop_drop, List.length_drop]
  have moved : charset.minLength + place + charset.minLength ≤ bytes.length
      ↔ place + charset.minLength ≤ bytes.length - charset.minLength := by
    omega
  rw [moved]

/-- Bytes that are fewer than a unit are not searched. -/
theorem terminatedFrom_of_lt (offset : Nat) (short : bytes.length < charset.minLength) :
    charset.terminatedFrom offset bytes = offset := by
  -- Less than a unit is left, and no unit can be looked at.
  cases bytes with
  | nil => rw [terminatedFrom]
  | cons byte rest =>
    have cut : ((byte :: rest).take charset.minLength).length < charset.minLength := by
      rw [List.length_take]
      omega
    rw [terminatedFrom]
    simp only [cut, decide_true, Bool.true_or, if_true]

/-- The search ends at the first unit if its bytes are zero, and else goes on behind it. -/
theorem terminatedFrom_eq (offset : Nat) (enough : charset.minLength ≤ bytes.length) :
    charset.terminatedFrom offset bytes =
      if (bytes.take charset.minLength).all (· = 0) then offset
      else charset.terminatedFrom (offset + charset.minLength) (bytes.drop charset.minLength) := by
  have positive := charset.minLength_pos
  obtain ⟨byte, rest, rfl⟩ : ∃ byte rest, bytes = byte :: rest :=
    List.exists_cons_of_length_pos (by omega)
  -- Dropping the front byte first leaves one less to drop behind it.
  obtain ⟨more, same⟩ := Nat.exists_eq_add_of_le' positive
  have whole : ¬min charset.minLength (byte :: rest).length < charset.minLength := by
    rw [Nat.min_eq_left enough]
    exact Nat.lt_irrefl _
  rw [terminatedFrom]
  simp only [List.length_take, whole, decide_false, Bool.false_or]
  rw [same, Nat.add_sub_cancel, List.drop_succ_cons]

/-- When the first unit is not zero, every zero unit is one of the bytes behind it. -/
theorem ZeroUnitAt.exists_behind {place : Nat} (there : charset.ZeroUnitAt bytes place)
    (enough : charset.minLength ≤ bytes.length)
    (nonzero : ¬∀ byte ∈ bytes.take charset.minLength, byte = 0) :
    ∃ later, place = charset.minLength + later ∧
      charset.ZeroUnitAt (bytes.drop charset.minLength) later := by
  -- The place is not the front, and so it lies one unit behind it at least.
  obtain ⟨count, rfl⟩ := there.1
  cases count with
  | zero =>
    have first := there.2.2
    rw [Nat.mul_zero, List.drop_zero] at first
    exact absurd first nonzero
  | succ count =>
    rw [Nat.mul_succ, Nat.add_comm] at there ⊢
    exact ⟨_, rfl, (zeroUnitAt_add_iff enough).mp there⟩

/-- A place is the first zero unit, or all whole units are before it and none of them is zero. -/
def TerminatesAt (charset : Charset) (bytes : List UInt8) (place : Nat) : Prop :=
  IsLeast {place | charset.ZeroUnitAt bytes place} place ∨
    (∀ other, ¬charset.ZeroUnitAt bytes other) ∧
      place = bytes.length - bytes.length % charset.minLength

/-- Where the bytes behind a unit terminate, the bytes with it do, unless it is zero. -/
theorem TerminatesAt.behind {place : Nat} (enough : charset.minLength ≤ bytes.length)
    (nonzero : ¬∀ byte ∈ bytes.take charset.minLength, byte = 0)
    (terminates : charset.TerminatesAt (bytes.drop charset.minLength) place) :
    charset.TerminatesAt bytes (charset.minLength + place) := by
  rcases terminates with ⟨there, least⟩ | ⟨none, all⟩
  · -- The first zero unit of the rest is the first one of all.
    refine .inl ⟨(zeroUnitAt_add_iff enough).mpr there, ?_⟩
    intro other otherThere
    obtain ⟨later, rfl, laterThere⟩ := ZeroUnitAt.exists_behind otherThere enough nonzero
    exact Nat.add_le_add_left (least laterThere) _
  · refine .inr ⟨?_, ?_⟩
    · intro other otherThere
      obtain ⟨later, -, laterThere⟩ := ZeroUnitAt.exists_behind otherThere enough nonzero
      exact none later laterThere
    · -- A unit less leaves the same remainder.
      have same := Nat.mod_eq_sub_mod enough
      have part := Nat.mod_le (bytes.length - charset.minLength) charset.minLength
      rw [all, List.length_drop]
      omega

/-- The search finds where the bytes terminate. -/
theorem exists_terminatedFrom (charset : Charset) (offset : Nat) (bytes : List UInt8) :
    ∃ place, charset.terminatedFrom offset bytes = offset + place ∧
      charset.TerminatesAt bytes place := by
  have positive := charset.minLength_pos
  -- Every unit that is not zero leaves fewer bytes behind it.
  induction size : bytes.length using Nat.strongRecOn generalizing offset bytes with
  | ind size ih =>
    subst size
    by_cases short : bytes.length < charset.minLength
    · -- There is no room for a unit.
      refine ⟨0, terminatedFrom_of_lt offset short, .inr ⟨?_, ?_⟩⟩
      · rintro other ⟨-, inside, -⟩
        omega
      · rw [Nat.mod_eq_of_lt short, Nat.sub_self]
    · have enough : charset.minLength ≤ bytes.length := Nat.not_lt.mp short
      rw [terminatedFrom_eq offset enough]
      split
      · next zero =>
        -- No place comes before the first one.
        refine ⟨0, rfl, .inl ⟨⟨Nat.dvd_zero _, by omega, ?_⟩, fun other _ => Nat.zero_le other⟩⟩
        simpa using zero
      · next nonzero =>
        have fewer : (bytes.drop charset.minLength).length < bytes.length := by
          rw [List.length_drop]
          omega
        obtain ⟨place, found, terminates⟩ := ih _ fewer (offset + charset.minLength) _ rfl
        rw [found]
        exact ⟨charset.minLength + place, Nat.add_assoc ..,
          terminates.behind enough (by simpa using nonzero)⟩

/-- The bytes terminate where the part before the terminator ends. -/
theorem terminatesAt_terminatedLength (charset : Charset) (bytes : List UInt8) :
    charset.TerminatesAt bytes (charset.terminatedLength bytes) := by
  -- The search from the front has nothing to add to the place that it finds.
  obtain ⟨place, found, terminates⟩ := charset.exists_terminatedFrom 0 bytes
  rw [terminatedLength, found, Nat.zero_add]
  exact terminates

/-- The search finds the first zero unit if there is one. -/
theorem isLeast_terminatedLength (zero : ∃ place, charset.ZeroUnitAt bytes place) :
    IsLeast {place | charset.ZeroUnitAt bytes place} (charset.terminatedLength bytes) := by
  -- There is a zero unit, so that the search does not end for want of one.
  rcases charset.terminatesAt_terminatedLength bytes with least | ⟨none, -⟩
  · exact least
  · obtain ⟨other, there⟩ := zero
    exact absurd there (none other)

/-- Without a zero unit, all whole units are before the terminator. -/
theorem terminatedLength_of_none (none : ∀ place, ¬charset.ZeroUnitAt bytes place) :
    charset.terminatedLength bytes = bytes.length - bytes.length % charset.minLength := by
  -- If the search had found a zero unit, there would be one.
  rcases charset.terminatesAt_terminatedLength bytes with least | ⟨-, all⟩
  · exact absurd least.1 (none _)
  · exact all

/-- A terminator is never behind the bytes. -/
theorem terminatedLength_le (charset : Charset) (bytes : List UInt8) :
    charset.terminatedLength bytes ≤ bytes.length := by
  -- A zero unit lies within the bytes, and what is left without one is a part of them.
  by_cases zero : ∃ place, charset.ZeroUnitAt bytes place
  · have inside := (isLeast_terminatedLength zero).1.2.1
    omega
  · rw [terminatedLength_of_none (not_exists.mp zero)]
    exact Nat.sub_le ..

/-- The place at which the unit begins that a byte belongs to. -/
def unitStart (charset : Charset) (place : Nat) : Nat := place - place % charset.minLength

/-- The terminator as it is found from single zero bytes: the first of them that belongs to a whole
zero unit tells where this unit begins. -/
def seekTerminator (charset : Charset) (bytes : List UInt8) : Nat :=
  match (List.range bytes.length).find? fun place =>
      bytes[place]? = some 0 ∧ charset.ZeroUnitAt bytes (charset.unitStart place) with
  | some place => charset.unitStart place
  | none => charset.unitStart bytes.length

/-- A zero unit begins in front of the end. -/
theorem ZeroUnitAt.lt_length {place : Nat} (zero : charset.ZeroUnitAt bytes place) :
    place < bytes.length := by
  -- The unit is not empty, and no part of it lies behind the bytes.
  have positive := charset.minLength_pos
  have inside := zero.2.1
  omega

/-- A zero unit begins with a zero byte. -/
theorem ZeroUnitAt.getElem?_eq {place : Nat} (zero : charset.ZeroUnitAt bytes place) :
    bytes[place]? = some 0 := by
  have there := zero.lt_length
  have positive := charset.minLength_pos
  -- The byte at the place is the first one of the unit.
  have member : bytes[place] ∈ (bytes.drop place).take charset.minLength := by
    rw [List.mem_take_iff_getElem]
    exact ⟨0, by simp only [List.length_drop]; omega, by simp⟩
  rw [List.getElem?_eq_getElem there, zero.2.2 _ member]

/-- A zero unit is the one that its first byte belongs to. -/
theorem ZeroUnitAt.unitStart_eq {place : Nat} (zero : charset.ZeroUnitAt bytes place) :
    charset.unitStart place = place := by
  rw [unitStart, Nat.mod_eq_zero_of_dvd zero.1, Nat.sub_zero]

/-- To search for zero bytes finds the same terminator as to search unit by unit. -/
theorem seekTerminator_eq (charset : Charset) (bytes : List UInt8) :
    charset.seekTerminator bytes = charset.terminatedLength bytes := by
  -- The search tries the place of every zero unit, if it has found nothing before.
  have tries {other : Nat} (there : charset.ZeroUnitAt bytes other) :
      bytes[other]? = some 0 ∧ charset.ZeroUnitAt bytes (charset.unitStart other) := by
    rw [there.unitStart_eq]
    exact ⟨there.getElem?_eq, there⟩
  unfold seekTerminator
  split
  · next place found =>
    rw [List.find?_range_eq_some] at found
    obtain ⟨tested, -, earlier⟩ := found
    have here := (of_decide_eq_true tested).2
    have least : IsLeast {place | charset.ZeroUnitAt bytes place} (charset.unitStart place) := by
      refine ⟨here, fun other there => ?_⟩
      by_contra before
      -- An earlier zero unit would have been found first.
      have rounded : charset.unitStart place ≤ place := Nat.sub_le ..
      have missed := earlier other (by omega)
      simp [tries there] at missed
    exact least.unique (isLeast_terminatedLength ⟨_, here⟩)
  · next found =>
    -- The first byte of a zero unit would have been found.
    refine (terminatedLength_of_none fun other there => ?_).symm
    have missed := List.find?_range_eq_none.mp found other there.lt_length
    simp [tries there] at missed

/-- A length argument that tells the terminated length selects the same bytes as one that asks for
the part before the terminator. -/
theorem selectedLength_terminated (charset : Charset) (bytes : List UInt8) :
    charset.selectedLength bytes (charset.terminatedLength bytes)
      = charset.selectedLength bytes (-1) := by
  -- The length is not negative, so that it is taken as it is given.
  have inside := charset.terminatedLength_le bytes
  have asked : ¬(charset.terminatedLength bytes : Int) = -1 := by omega
  have given : 0 ≤ (charset.terminatedLength bytes : Int) ∧
      (charset.terminatedLength bytes : Int) ≤ bytes.length := by
    omega
  rw [selectedLength, selectedLength, resolveLength, resolveLength, if_neg asked, if_pos given,
    if_pos rfl, Int.toNat_natCast]

/-- The terminated part of some bytes ends at their first zero unit.

Without a zero unit it is made of all whole units. These are all the bytes exactly if no unit is cut
off; the bytes of one that is are dropped, whereas to decode all the bytes reports them as cut off.
A call that asks for the terminated part converts the same as one that is told its length. -/
theorem terminatedLength_selects (charset : Charset) (bytes : List UInt8) :
    charset.terminatedLength bytes = charset.seekTerminator bytes ∧
      ((∃ place, charset.ZeroUnitAt bytes place) →
        IsLeast {place | charset.ZeroUnitAt bytes place} (charset.terminatedLength bytes)) ∧
      ((∀ place, ¬charset.ZeroUnitAt bytes place) →
        charset.terminatedLength bytes = bytes.length - bytes.length % charset.minLength ∧
        (charset.terminatedLength bytes = bytes.length ↔ charset.minLength ∣ bytes.length) ∧
        ∀ policy, charset.decode policy bytes =
          (charset.decode policy (bytes.take (charset.terminatedLength bytes))).followedBy
            (cutOffUnit policy (charset.terminatedLength bytes)
              (bytes.drop (charset.terminatedLength bytes)))) ∧
      (∀ (converter : Converter) (dest : List UInt16), converter.charset = charset →
        converter.decodeInto dest bytes (-1)
          = converter.decodeInto dest bytes (charset.terminatedLength bytes)) ∧
      ∀ (target source : String) (dest : List UInt8), ofName source = .ok charset →
        Converter.convertInto target source dest bytes (-1)
          = Converter.convertInto target source dest bytes (charset.terminatedLength bytes) := by
  refine ⟨(charset.seekTerminator_eq bytes).symm, isLeast_terminatedLength, ?_, ?_, ?_⟩
  · intro none
    -- The bytes that are dropped are fewer than a unit.
    have all := terminatedLength_of_none none
    have rest := Nat.mod_lt bytes.length charset.minLength_pos
    have part := Nat.mod_le bytes.length charset.minLength
    refine ⟨all, ?_, fun policy => ?_⟩
    · rw [all, Nat.dvd_iff_mod_eq_zero]
      omega
    · -- The bytes are their whole units, and those of one that is cut off.
      have whole : (bytes.take (charset.terminatedLength bytes)).length
          = charset.terminatedLength bytes :=
        List.length_take_of_le (charset.terminatedLength_le bytes)
      have aligned : charset.minLength
          ∣ (bytes.take (charset.terminatedLength bytes)).length := by
        rw [whole, all]
        exact Nat.dvd_sub_mod ..
      have short : (bytes.drop (charset.terminatedLength bytes)).length
          < charset.minLength := by
        rw [List.length_drop]
        omega
      have split := decodeFrom_append_of_lt policy 0 aligned short
      rwa [List.take_append_drop, whole, Nat.zero_add] at split
  · rintro converter dest rfl
    rw [Converter.decodeInto, Converter.decodeInto, selectedLength_terminated]
  · intro target source dest found
    simp only [Converter.convertInto, found, bind, Except.bind, selectedLength_terminated]

/-- Zero bytes of two different units are no terminator, and half a unit at the end is dropped. -/
theorem terminatedLength_selects_halves :
    let ended : List UInt8 := [0x41, 0x00, 0x00, 0x01, 0x00, 0x00, 0x42, 0x00]
    let cut : List UInt8 := [0x41, 0x00, 0x42]
    IsLeast {place | (utf16 .little).ZeroUnitAt ended place} 4 ∧
      (utf16 .little).decode .strict cut = ⟨[0x41], some ⟨.truncatedInput, 2, 1⟩⟩ ∧
      Converter.convertInto "UTF-8" "UTF-16LE" [0, 0] cut (-1)
        = Converter.convertInto "UTF-8" "UTF-16LE" [0, 0] cut 2 := by
  -- The zeros at the second place belong to two units, and the first unit of zeros comes later.
  intro ended cut
  obtain ⟨-, first, -, -, -⟩ := terminatedLength_selects (utf16 .little) ended
  obtain ⟨-, -, unterminated, -, converting⟩ := terminatedLength_selects (utf16 .little) cut
  have four : (utf16 .little).terminatedLength ended = 4 := by decide +kernel
  have two : (utf16 .little).terminatedLength cut = 2 := by decide +kernel
  have tried : ∀ place < 3, ¬(utf16 .little).ZeroUnitAt cut place := by decide
  have none (place : Nat) (there : (utf16 .little).ZeroUnitAt cut place) : False :=
    tried place there.lt_length there
  refine ⟨?_, ?_, ?_⟩
  · rw [← four]
    exact first ⟨4, by decide +kernel⟩
  · rw [(unterminated none).2.2 .strict, two]
    decide +kernel
  · have same := converting "UTF-8" "UTF-16LE" [0, 0] (by decide +kernel)
    rwa [two] at same

/-- Bytes without a zero unit are not always selected as a whole, nor converted as a whole. -/
theorem terminatedLength_lt_length :
    (¬∀ (charset : Charset) (bytes : List UInt8), (∀ place, ¬charset.ZeroUnitAt bytes place) →
      charset.terminatedLength bytes = bytes.length) ∧
    ¬∀ (charset : Charset) (bytes : List UInt8), (∀ place, ¬charset.ZeroUnitAt bytes place) →
      ∀ (target source : String) (dest : List UInt8), ofName source = .ok charset →
        Converter.convertInto target source dest bytes (-1)
          = Converter.convertInto target source dest bytes bytes.length := by
  -- The last of three bytes begins a unit of two, and is left out if no length is given.
  have tried : ∀ place < 3, ¬(utf16 .little).ZeroUnitAt [0x41, 0x00, 0x42] place := by decide
  have none (place : Nat) : ¬(utf16 .little).ZeroUnitAt [0x41, 0x00, 0x42] place :=
    fun there => tried place there.lt_length there
  constructor
  · intro whole
    have all := whole (utf16 .little) [0x41, 0x00, 0x42] none
    have two : (utf16 .little).terminatedLength [0x41, 0x00, 0x42] = 2 := by decide +kernel
    rw [two] at all
    simp at all
  · intro whole
    -- With its length the input is told to be cut short by a replacement character.
    have same := whole (utf16 .little) [0x41, 0x00, 0x42] none "UTF-8" "UTF-16LE" [0, 0, 0, 0]
      (by decide +kernel)
    have short : Converter.convertInto "UTF-8" "UTF-16LE" [0, 0, 0, 0] [0x41, 0x00, 0x42] (-1)
        = ⟨[0x41, 0, 0, 0], 1, .success⟩ := by decide +kernel
    have long : Converter.convertInto "UTF-8" "UTF-16LE" [0, 0, 0, 0] [0x41, 0x00, 0x42] 3
        = ⟨[0x41, 0xEF, 0xBF, 0xBD], 4, .success⟩ := by decide +kernel
    rw [short] at same
    exact absurd (same.trans long) (by decide)

end Charset

end UniText
