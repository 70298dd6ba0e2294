import Mathlib.Algebra.Group.Nat.Defs
import UniText.Charset.Text

/-! Decoding stays in the code space, and what stays in it has units in UTF-16. -/

namespace UniText

/-- What was decoded is no code point beyond the last one. -/
def Decoded.InRange : Decoded → Prop
  | scalar code | surrogate code => code ≤ CodePoint.last
  | illegal | truncated | incomplete => True

/-- No policy puts a code point beyond the last one in the place of what was decoded. -/
theorem Decoded.InRange.resolve_le {decoded : Decoded} (inRange : decoded.InRange)
    {policy : ErrorPolicy} {code : CodePoint} (resolved : decoded.resolve policy = .ok code) :
    code ≤ CodePoint.last := by
  have replacement : CodePoint.replacement ≤ CodePoint.last := by decide
  cases decoded with
  | scalar other =>
    simp only [resolve, Except.ok.injEq] at resolved
    exact resolved ▸ inRange
  | surrogate other =>
    cases policy with
    | strict => simp [resolve] at resolved
    | substitute =>
      simp only [resolve, Except.ok.injEq] at resolved
      exact resolved ▸ replacement
    | preserve =>
      simp only [resolve, Except.ok.injEq] at resolved
      exact resolved ▸ inRange
  | illegal | truncated | incomplete =>
    -- Ill-formed input is replaced, or is not resolved at all.
    simp only [resolve] at resolved
    split at resolved
    · simp at resolved
    · simp only [Except.ok.injEq] at resolved
      exact resolved ▸ replacement

/-- A step that is cut off decodes no code point. -/
theorem Step.inRange_cutOff (atEnd : Bool) (length : Nat) :
    (Step.cutOff atEnd length).decoded.InRange := by
  cases atEnd <;> trivial

/-- A number below the end of the code space is a code point. -/
theorem CodePoint.ofNat_le_last {number : Nat} (below : number < 0x110000) :
    UInt32.ofNat number ≤ CodePoint.last := by
  -- The number is far too small to be reduced to a word.
  rw [UInt32.le_iff_toNat_le, UInt32.toNat_ofNat', Nat.mod_eq_of_lt (by omega)]
  exact Nat.le_of_lt_succ below

/-- A byte is a code point. -/
theorem CodePoint.toUInt32_le_last (byte : UInt8) : byte.toUInt32 ≤ CodePoint.last := by
  rw [UInt32.le_iff_toNat_le, UInt8.toNat_toUInt32]
  exact Nat.le_trans (Nat.le_of_lt byte.toNat_lt) (by decide)

namespace Utf8

/-- Trail bytes lead to no number beyond the code space, if the greatest ones do not. -/
theorem inRange_trails {atEnd : Bool} {code used due : Nat} {range : UInt8 × UInt8}
    {bytes : List UInt8} (low : 0x80 ≤ range.1.toNat) (high : range.2.toNat ≤ 0xBF)
    (greatest : (code * 0x40 + (range.2.toNat - 0x80) + 1) * 0x40 ^ due ≤ 0x110000 * 0x40) :
    (trails atEnd code used due range bytes).decoded.InRange := by
  induction due generalizing code used range bytes with
  | zero => exact CodePoint.ofNat_le_last (by omega)
  | succ due ih =>
    cases bytes with
    | nil => exact Step.inRange_cutOff ..
    | cons byte rest =>
      rw [trails]
      split
      · trivial
      · next within =>
        simp only [Bool.or_eq_true, decide_eq_true_eq, not_or, UInt8.lt_iff_toNat_lt,
          Nat.not_lt] at within
        apply ih (by decide) (by decide)
        -- The lowest bits of the byte are no more than those of the last one that fits.
        have bits : byte.toNat % 0x40 ≤ range.2.toNat - 0x80 := by omega
        calc ((code * 0x40 + byte.toNat % 0x40) * 0x40 + 0x3F + 1) * 0x40 ^ due
            = (code * 0x40 + byte.toNat % 0x40 + 1) * 0x40 ^ (due + 1) := by
              rw [Nat.pow_succ', ← Nat.mul_assoc, Nat.add_mul _ 1 0x40]
          _ ≤ (code * 0x40 + (range.2.toNat - 0x80) + 1) * 0x40 ^ (due + 1) :=
              Nat.mul_le_mul_right _ (by omega)
          _ ≤ 0x110000 * 0x40 := greatest

/-- No lead that begins a longer sequence goes beyond the code space, with its first trail. -/
theorem greatest_of_lead {lead : UInt8} (long : 2 ≤ sequenceLength lead) :
    0x80 ≤ (firstTrail lead).1.toNat ∧ (firstTrail lead).2.toNat ≤ 0xBF ∧
      (leadBits lead (sequenceLength lead) * 0x40 + ((firstTrail lead).2.toNat - 0x80) + 1)
        * 0x40 ^ (sequenceLength lead - 1) ≤ 0x110000 * 0x40 := by
  obtain ⟨number, small, rfl⟩ : ∃ number < 256, UInt8.ofNat number = lead :=
    ⟨lead.toNat, lead.toNat_lt, UInt8.ofNat_toNat⟩
  -- There are few enough leads to look at each of them.
  revert number
  decide +kernel

/-- UTF-8 decodes to code points only. -/
theorem inRange_next (bytes : List UInt8) (atEnd : Bool) : (next bytes atEnd).decoded.InRange := by
  cases bytes with
  | nil => exact Step.inRange_cutOff ..
  | cons lead rest =>
    simp only [next]
    -- A byte that is no lead decodes to nothing, and neither does an overlong pair.
    split
    · trivial
    · split
      · exact CodePoint.toUInt32_le_last lead
      · split
        · cases rest with
          | nil => cases atEnd <;> trivial
          | cons byte rest =>
            rw [overlong]
            split <;> trivial
        · have long : 2 ≤ sequenceLength lead := by omega
          obtain ⟨low, high, greatest⟩ := greatest_of_lead long
          exact inRange_trails low high greatest

end Utf8

namespace Utf16

/-- A pair of surrogates is a code point. -/
theorem ofPair_le {lead trail : UInt16} (isLead : CodePoint.isLead lead.toUInt32 = true)
    (isTrail : CodePoint.isTrail trail.toUInt32 = true) : ofPair lead trail ≤ CodePoint.last := by
  -- Lead and trail bring ten bits each, on top of the first plane.
  simp only [CodePoint.isLead, CodePoint.isTrail, Bool.and_eq_true, decide_eq_true_eq,
    UInt32.le_iff_toNat_le] at isLead isTrail ⊢
  simp only [ofPair, CodePoint.last, UInt32.toNat_add, UInt32.toNat_mul, UInt32.toNat_sub,
    UInt32.toNat_ofNat] at isLead isTrail ⊢
  omega

/-- A unit, alone or with the one after it, decodes to a code point. -/
theorem inRange_combine (unit : UInt16) (following : Option UInt16) :
    (combine unit following).decoded.InRange := by
  have small (unit : UInt16) : unit.toUInt32 ≤ CodePoint.last := by
    rw [UInt32.le_iff_toNat_le, UInt16.toNat_toUInt32]
    exact Nat.le_trans (Nat.le_of_lt unit.toNat_lt) (by decide)
  cases following with
  | none =>
    simp only [combine]
    split <;> exact small unit
  | some trail =>
    simp only [combine]
    -- Only a lead with a trail behind it gives more than its own value.
    split
    · exact small unit
    · split
      · next pair =>
        rw [Bool.and_eq_true] at pair
        exact ofPair_le pair.1 pair.2
      · exact small unit

/-- UTF-16 decodes to code points only. -/
theorem inRange_next (order : Endian) (bytes : List UInt8) (atEnd : Bool) :
    (next order bytes atEnd).decoded.InRange := by
  match bytes with
  | [] | [_] => exact Step.inRange_cutOff ..
  | first :: second :: rest =>
    -- The unit behind the first one is there or not, and the step may wait for it.
    simp only [next]
    split <;> split
    all_goals first | trivial | exact inRange_combine ..

/-- A unit, alone or with the one after it, is resolved if surrogates are kept. -/
theorem exists_resolve_combine (unit : UInt16) (following : Option UInt16) :
    ∃ code, (combine unit following).decoded.resolve .preserve = .ok code := by
  -- A unit stands for a character or for a surrogate, and neither is refused.
  cases following with
  | none =>
    simp only [combine]
    split <;> exact ⟨_, rfl⟩
  | some trail =>
    simp only [combine]
    split
    · exact ⟨_, rfl⟩
    · split <;> exact ⟨_, rfl⟩

/-- Units decode without fail to code points, if surrogates are kept. -/
theorem decode_preserve (units : List UInt16) : (decode .preserve units).error = none ∧
    ∀ code ∈ (decode .preserve units).output, code ≤ CodePoint.last := by
  unfold decode
  generalize 0 = offset
  fun_induction decodeFrom .preserve offset units with
  | case1 => simp [Progress.done]
  | case2 offset unit rest step fault refused =>
    -- No unit is refused.
    obtain ⟨code, resolved⟩ := exists_resolve_combine unit rest.head?
    exact absurd (refused.symm.trans resolved) (by simp)
  | case3 offset unit rest step code resolved ih =>
    refine ⟨ih.1, ?_⟩
    intro other member
    rw [Progress.output_before] at member
    rcases List.mem_cons.mp member with rfl | member
    · exact (inRange_combine unit rest.head?).resolve_le resolved
    · exact ih.2 other member

/-- Every code point has one unit or two. -/
theorem exists_units_of_le {code : CodePoint} (inside : code ≤ CodePoint.last) :
    ∃ written, units code = .ok written := by
  -- A value of the code space takes one unit or two.
  unfold units
  split <;> exact ⟨_, rfl⟩

/-- A text of code points has units, if surrogates are kept. -/
theorem encode_preserve {text : List CodePoint} (inside : ∀ code ∈ text, code ≤ CodePoint.last) :
    (encode .preserve text).error = none := by
  unfold encode
  generalize 0 = index
  -- Errors are counted from any index, so that the rest is a text like the whole.
  induction text generalizing index with
  | nil => rfl
  | cons code text ih =>
    have here : ¬CodePoint.last < code := UInt32.not_lt.mpr (inside code (by simp))
    have rest := ih (fun other member => inside other (by simp [member])) (index + 1)
    obtain ⟨written, spelt⟩ := exists_units_of_le (UInt32.not_lt.mp here)
    simp [encodeFrom, here, spelt, rest]

end Utf16

/-- UTF-32 decodes to code points only. -/
theorem Utf32.inRange_next (order : Endian) (bytes : List UInt8) (atEnd : Bool) :
    (next order bytes atEnd).decoded.InRange := by
  unfold next
  -- Four bytes make a number, and fewer are cut off.
  split
  · unfold classify
    split
    · trivial
    · next inside => split <;> exact UInt32.not_lt.mp inside
  · exact Step.inRange_cutOff ..

/-- A charset of single bytes decodes to code points only. -/
theorem SingleByte.inRange_next (limit : Nat) (bytes : List UInt8) (atEnd : Bool) :
    (next limit bytes atEnd).decoded.InRange := by
  cases bytes with
  | nil => exact Step.inRange_cutOff ..
  | cons byte rest =>
    simp only [next]
    -- A byte above the limit of the charset decodes to nothing.
    split
    · exact CodePoint.toUInt32_le_last byte
    · trivial

namespace Charset

/-- Every charset decodes to code points only. -/
theorem inRange_next (charset : Charset) (bytes : List UInt8) (atEnd : Bool) :
    (charset.next bytes atEnd).decoded.InRange := by
  -- Every charset has its own way to stay within the code space.
  cases charset with
  | utf8 => exact Utf8.inRange_next bytes atEnd
  | utf16 order => exact Utf16.inRange_next order bytes atEnd
  | utf32 order => exact Utf32.inRange_next order bytes atEnd
  | usAscii => exact SingleByte.inRange_next 0x7F bytes atEnd
  | latin1 => exact SingleByte.inRange_next 0xFF bytes atEnd

/-- Decoding gives code points only, as far as it gets. -/
theorem le_last_of_mem_decodeFrom {charset : Charset} {policy : ErrorPolicy} {offset : Nat}
    {bytes : List UInt8} {code : CodePoint}
    (member : code ∈ (charset.decodeFrom policy offset bytes).output) : code ≤ CodePoint.last := by
  -- An error leaves the code points before it, so that each step answers for its own.
  fun_induction decodeFrom charset policy offset bytes with
  | case1 => simp [Progress.done] at member
  | case2 => simp [Progress.stop] at member
  | case3 offset byte rest step first resolved ih =>
    rw [Progress.output_before] at member
    rcases List.mem_cons.mp member with rfl | member
    · exact (charset.inRange_next (byte :: rest) true).resolve_le resolved
    · exact ih member

end Charset

end UniText
