import Mathlib.Data.Set.Basic
import Mathlib.Order.Bounds.Defs
import UniText.Proofs.Charset.Reading
import UniText.Proofs.Charset.Streaming

/-! UTF-8 uses up ill-formed input one maximal subpart of a character at a time. -/

namespace UniText.Utf8

/-- Some bytes begin the encoding of a scalar value, and are not all of it. -/
def Opens (bytes : List UInt8) : Prop :=
  ∃ code piece, CodePoint.isScalar code = true ∧ encode code = .ok piece ∧ bytes <+: piece ∧
    bytes ≠ piece

/-- Some bytes begin with a pair that would be an overlong encoding of an ASCII character. -/
def BeginsOverlong (bytes : List UInt8) : Prop :=
  ∃ lead trail rest, bytes = lead :: trail :: rest ∧ (lead = 0xC0 ∨ lead = 0xC1) ∧
    0x80 ≤ trail ∧ trail ≤ 0xBF

/-- The numbers of bytes in front that begin a character without completing it. -/
def subpartLengths (bytes : List UInt8) : Set Nat :=
  {count | 1 ≤ count ∧ count ≤ bytes.length ∧ Opens (bytes.take count)}

/-- What a step is at the end of the input, where no character is in front. -/
structure Subpart (bytes : List UInt8) (step : Step) : Prop where
  /-- An overlong pair is taken as one piece. -/
  pair : BeginsOverlong bytes → step.length = 2
  /-- Other bytes are taken for as long as they begin a character, or else one at a time. -/
  longest : ¬BeginsOverlong bytes →
    IsGreatest (subpartLengths bytes) step.length ∨ subpartLengths bytes = ∅ ∧ step.length = 1
  /-- The input is cut off exactly if all of it begins a character. -/
  decoded : Opens bytes ∧ step.decoded = .truncated ∨ ¬Opens bytes ∧ step.decoded = .illegal

section Trails

variable {code used due : Nat} {range : UInt8 × UInt8} {bytes : List UInt8}

/-- There are trail bytes for every character that is begun. -/
theorem exists_trails (code used due : Nat) (inhabited : range.1 ≤ range.2) :
    ∃ more value, more.length = due ∧
      trails true code used due range more = ⟨.scalar value, used + due⟩ := by
  induction due generalizing code used range with
  | zero => exact ⟨[], _, rfl, rfl⟩
  | succ due ih =>
    -- The first byte of the range is as good as any other one.
    obtain ⟨more, value, length, read⟩ :=
      @ih (0x80, 0xBF) (code * 0x40 + range.1.toNat % 0x40) (used + 1) (by decide)
    have within : ¬(range.1 < range.1 || range.2 < range.1) = true := by
      simpa [UInt8.not_lt] using inhabited
    refine ⟨range.1 :: more, value, by rw [List.length_cons, length], ?_⟩
    rw [trails, if_neg within, read, Nat.add_right_comm, Nat.add_assoc]

/-- Trail bytes that leave a step undecided can be completed to a character. -/
theorem exists_completion
    (open_ : (trails false code used due range bytes).decoded = .incomplete)
    (inhabited : range.1 ≤ range.2) : ∃ more value, bytes.length + more.length = due ∧
      trails true code used due range (bytes ++ more) = ⟨.scalar value, used + due⟩ := by
  -- The bytes that are there are taken one by one, and the missing ones may be any that fit.
  induction bytes generalizing code used due range with
  | nil =>
    obtain ⟨more, value, length, read⟩ := exists_trails code used due inhabited
    exact ⟨more, value, by rw [List.length_nil, Nat.zero_add, length], read⟩
  | cons byte bytes ih =>
    cases due with
    | zero => simp [trails] at open_
    | succ due =>
      rw [trails] at open_
      split at open_
      · simp at open_
      · next within =>
        -- Behind the first trail byte the range is the widest one.
        obtain ⟨more, value, length, read⟩ := ih open_ (by decide)
        refine ⟨more, value, by rw [List.length_cons, ← length, Nat.add_right_comm], ?_⟩
        rw [List.cons_append, trails, if_neg within, read, Nat.add_right_comm, Nat.add_assoc]

/-- What is no character ends in front of the first byte that does not go on with one.

If all bytes go on with one, the input is cut off. -/
theorem trails_subpart
    (none : ∀ value, (trails true code used due range bytes).decoded ≠ .scalar value) :
    ∃ count, (trails true code used due range bytes).length = used + count ∧
      (trails false code used due range (bytes.take count)).decoded = .incomplete ∧
      (count = bytes.length ∧ (trails true code used due range bytes).decoded = .truncated ∨
        count < bytes.length ∧ (trails true code used due range bytes).decoded = .illegal ∧
        (trails false code used due range (bytes.take (count + 1))).decoded = .illegal) := by
  -- The step looks at one trail byte after the other, and stops at the first that does not fit.
  induction due generalizing code used range bytes with
  | zero =>
    -- A character with all of its trail bytes is one.
    exact absurd rfl (none _)
  | succ due ih =>
    cases bytes with
    | nil => exact ⟨0, rfl, rfl, .inl ⟨rfl, rfl⟩⟩
    | cons byte bytes =>
      simp only [trails] at none ⊢
      split
      · next outside =>
        refine ⟨0, rfl, rfl, .inr ⟨Nat.succ_pos _, rfl, ?_⟩⟩
        rw [List.take_succ_cons, trails, if_pos outside]
      · next within =>
        simp only [if_neg within] at none
        obtain ⟨count, length, open_, ends⟩ := ih none
        refine ⟨count + 1, by rw [length, Nat.add_assoc, Nat.add_comm 1], ?_, ?_⟩
        · rw [List.take_succ_cons, trails, if_neg within, open_]
        · rw [List.take_succ_cons, trails, if_neg within, List.length_cons,
            Nat.add_right_cancel_iff, Nat.add_lt_add_iff_right]
          exact ends

end Trails

/-- There is a byte that may follow any lead at once. -/
theorem firstTrail_inhabited (lead : UInt8) : (firstTrail lead).1 ≤ (firstTrail lead).2 := by
  -- No range is narrowed from both ends.
  unfold firstTrail
  repeat' split
  all_goals decide

/-- A character is begun by a lead, and by trail bytes that leave the step undecided. -/
theorem opens_cons_iff {lead : UInt8} {bytes : List UInt8} : Opens (lead :: bytes) ↔
    ∃ later, sequenceLength lead = later + 2 ∧ 0xC2 ≤ lead.toNat ∧
      (trails false (leadBits lead (later + 2)) 1 (later + 1) (firstTrail lead) bytes).decoded
        = .incomplete := by
  constructor
  · intro opens
    obtain ⟨code, piece, -, written, ⟨rest, rfl⟩, differs⟩ := opens
    have some_ : rest ≠ [] := by
      intro none
      rw [none, List.append_nil] at differs
      exact differs rfl
    have more := List.length_pos_iff.mpr some_
    have read : next (lead :: (bytes ++ rest)) true
        = ⟨.scalar code, bytes.length + rest.length + 1⟩ := by
      refine next_eq_scalar_iff.mpr ⟨_, [], written, (List.append_nil _).symm, ?_⟩
      rw [List.length_append, List.length_cons, Nat.add_right_comm]
    rcases lead_of_next read with ascii | ⟨later, long, least⟩
    · -- A byte of ASCII is a character by itself.
      rw [next_ascii ascii, Step.mk.injEq] at read
      omega
    · refine ⟨later, long, least, ?_⟩
      by_contra decided
      -- A decided step would not cover the bytes that are missing.
      have short := (length_trails decided).2.1
      rw [next_of_lead long least, trails_append decided] at read
      rw [read] at short
      simp only at short
      omega
  · intro begun
    obtain ⟨later, long, least, open_⟩ := begun
    obtain ⟨more, value, length, read⟩ := exists_completion open_ (firstTrail_inhabited lead)
    have few := (trails_incomplete open_).2.1
    rw [← next_of_lead long least] at read
    obtain ⟨piece, rest, written, whole, size⟩ := next_eq_scalar_iff.mp read
    -- The character takes all of the bytes.
    have none : rest = [] := by
      have total := congrArg List.length whole
      rw [List.length_append, List.length_cons, List.length_append] at total
      exact List.eq_nil_of_length_eq_zero (by omega)
    rw [none, List.append_nil, ← List.cons_append] at whole
    refine ⟨value, piece, isScalar_of_encode written, written, ⟨more, whole⟩, ?_⟩
    -- The bytes that were missing make the difference.
    intro same
    have total := congrArg List.length whole
    rw [← same, List.length_append] at total
    omega

/-- A lead of characters begins one as long as its trail bytes leave the step undecided. -/
theorem opens_iff_of_lead {lead : UInt8} {later : Nat} (long : sequenceLength lead = later + 2)
    (least : 0xC2 ≤ lead.toNat) (bytes : List UInt8) :
    Opens (lead :: bytes) ↔ (next (lead :: bytes) false).decoded = .incomplete := by
  rw [opens_cons_iff, next_of_lead long least]
  constructor
  · intro begun
    obtain ⟨other, same, -, open_⟩ := begun
    -- The lead says how many trail bytes there are.
    obtain rfl : later = other := Nat.add_right_cancel (long.symm.trans same)
    exact open_
  · intro open_
    exact ⟨later, long, least, open_⟩

/-- A byte that leads no characters begins none, whatever follows. -/
theorem not_opens_of_lead {lead : UInt8}
    (other : ∀ later, sequenceLength lead = later + 2 → ¬0xC2 ≤ lead.toNat) (bytes : List UInt8) :
    ¬Opens (lead :: bytes) := by
  -- A sequence that is begun has a lead of two bytes or more, from C2 on.
  intro opens
  obtain ⟨later, long, least, -⟩ := opens_cons_iff.mp opens
  exact other later long least

/-- A lead that UTF-8 has no use for begins no character. -/
theorem not_opens_of_unused {lead : UInt8} (unused : lead = 0xC0 ∨ lead = 0xC1)
    (bytes : List UInt8) : ¬Opens (lead :: bytes) := by
  -- Both bytes lie just below the leads that are in use.
  apply not_opens_of_lead
  intro later _
  rcases unused with rfl | rfl <;> decide

/-- Bytes behind a lead that begins none are no part of a character. -/
theorem subpartLengths_eq_empty {lead : UInt8} {bytes : List UInt8}
    (none : ∀ rest, ¬Opens (lead :: rest)) : subpartLengths (lead :: bytes) = ∅ := by
  ext count
  simp only [subpartLengths, Set.mem_ofPred_eq, Set.mem_empty_iff_false, iff_false]
  intro subpart
  obtain ⟨some_, -, opens⟩ := subpart
  -- The lead is in front of any number of bytes but zero.
  obtain ⟨count, rfl⟩ := Nat.exists_eq_succ_of_ne_zero (Nat.pos_iff_ne_zero.mp some_)
  exact none _ opens

/-- A lead of characters is neither of the two that UTF-8 has no use for. -/
theorem not_unused {lead : UInt8} (least : 0xC2 ≤ lead.toNat) : ¬(lead = 0xC0 ∨ lead = 0xC1) := by
  simp only [← UInt8.toNat_inj, UInt8.toNat_ofNat]
  omega

/-- Only the two leads that UTF-8 has no use for begin overlong pairs. -/
theorem not_beginsOverlong {lead : UInt8} (other : ¬(lead = 0xC0 ∨ lead = 0xC1))
    (bytes : List UInt8) : ¬BeginsOverlong (lead :: bytes) := by
  -- Only the two leads begin an overlong pair.
  intro overlong
  obtain ⟨first, trail, rest, same, begins, -⟩ := overlong
  rw [List.cons.injEq] at same
  exact other (same.1 ▸ begins)

/-- A lead that UTF-8 has no use for begins an overlong pair together with any trail byte. -/
theorem beginsOverlong_iff {lead byte : UInt8} {bytes : List UInt8}
    (unused : lead = 0xC0 ∨ lead = 0xC1) :
    BeginsOverlong (lead :: byte :: bytes) ↔ isTrail byte = true := by
  -- The second byte of the pair can be any trail.
  have range : isTrail byte = true ↔ 0x80 ≤ byte ∧ byte ≤ 0xBF := by
    simp only [isTrail, decide_eq_true_eq, UInt8.le_iff_toNat_le, UInt8.toNat_ofNat]
    omega
  rw [range]
  constructor
  · intro overlong
    obtain ⟨first, trail, rest, same, -, within⟩ := overlong
    simp only [List.cons.injEq] at same
    exact same.2.1 ▸ within
  · intro within
    exact ⟨lead, byte, bytes, rfl, unused, within⟩

/-- A lead and its trail bytes end where no character goes on with them. -/
theorem subpart_of_lead {lead : UInt8} {later : Nat} (long : sequenceLength lead = later + 2)
    (least : 0xC2 ≤ lead.toNat) {bytes : List UInt8}
    (none : ∀ code, (next (lead :: bytes) true).decoded ≠ .scalar code) :
    Subpart (lead :: bytes) (next (lead :: bytes) true) := by
  rw [next_of_lead long least] at none ⊢
  obtain ⟨count, length, open_, ends⟩ := trails_subpart none
  have few : count ≤ bytes.length := by omega
  -- The first byte that no character goes on with decides the step, whatever comes after it.
  have decided {more : Nat} (beyond : count < more) (inside : more ≤ bytes.length) :
      ¬Opens (lead :: bytes.take more) := by
    rcases ends with ⟨all, -⟩ | ⟨-, -, illegal⟩
    · omega
    · obtain ⟨extra, rfl⟩ := Nat.exists_eq_add_of_le (Nat.succ_le_of_lt beyond)
      rw [opens_iff_of_lead long least, next_of_lead long least, List.take_add,
        trails_append (by simp [illegal]), illegal]
      simp
  constructor
  case pair =>
    intro pair
    exact absurd pair (not_beginsOverlong (not_unused least) _)
  case longest =>
    intro _
    left
    refine ⟨⟨by omega, ?_, ?_⟩, ?_⟩
    · rw [length, List.length_cons]
      omega
    · rw [length, Nat.add_comm, List.take_succ_cons, opens_iff_of_lead long least,
        next_of_lead long least, open_]
    · -- Any longer front has the byte in it that decides the step.
      intro more subpart
      obtain ⟨some_, inside, opens⟩ := subpart
      obtain ⟨more, rfl⟩ := Nat.exists_eq_succ_of_ne_zero (Nat.pos_iff_ne_zero.mp some_)
      rw [length]
      by_contra beyond
      exact decided (by omega) (Nat.le_of_succ_le_succ inside) opens
  case decoded =>
    rcases ends with ⟨all, cut⟩ | ⟨inside, illegal, -⟩
    · left
      refine ⟨?_, cut⟩
      rw [opens_iff_of_lead long least, next_of_lead long least, ← open_, all, List.take_length]
    · right
      refine ⟨?_, illegal⟩
      have closed := decided inside (Nat.le_refl _)
      rwa [List.take_length] at closed

/-- Where no character is in front, a maximal subpart of one is used up. -/
theorem subpart_of_next {bytes : List UInt8} (nonempty : bytes ≠ [])
    (none : ∀ code, (next bytes true).decoded ≠ .scalar code) :
    Subpart bytes (next bytes true) := by
  obtain ⟨lead, bytes, rfl⟩ := List.exists_cons_of_ne_nil nonempty
  -- Only a lead of characters may have more bytes taken with it than one.
  rcases lead_cases lead with zero | ascii | unused | ⟨later, long, least⟩
  · have closed (rest : List UInt8) : ¬Opens (lead :: rest) := not_opens_of_lead (by omega) rest
    have other : ¬(lead = 0xC0 ∨ lead = 0xC1) := by
      rintro (rfl | rfl) <;> simp [sequenceLength] at zero
    have step : next (lead :: bytes) true = ⟨.illegal, 1⟩ := by simp [next, zero]
    rw [step]
    exact ⟨fun pair => absurd pair (not_beginsOverlong other _),
      fun _ => .inr ⟨subpartLengths_eq_empty closed, rfl⟩, .inr ⟨closed _, rfl⟩⟩
  · exact absurd (congrArg Step.decoded (next_ascii ascii bytes)) (none _)
  · -- Such a lead is used up by itself, or together with one trail byte.
    have closed := not_opens_of_unused unused
    have empty : subpartLengths (lead :: bytes) = ∅ := subpartLengths_eq_empty closed
    rw [next_of_unused unused]
    cases bytes with
    | nil =>
      refine ⟨?_, fun _ => .inr ⟨empty, rfl⟩, .inr ⟨closed _, rfl⟩⟩
      intro pair
      obtain ⟨_, _, _, same, -⟩ := pair
      simp at same
    | cons byte bytes =>
      rw [overlong]
      split
      · next trail =>
        exact ⟨fun _ => rfl, fun none => absurd ((beginsOverlong_iff unused).mpr trail) none,
          .inr ⟨closed _, rfl⟩⟩
      · next other =>
        exact ⟨fun pair => absurd ((beginsOverlong_iff unused).mp pair) other,
          fun _ => .inr ⟨empty, rfl⟩, .inr ⟨closed _, rfl⟩⟩
  · exact subpart_of_lead long least none

/-- More input is waited for behind the beginning of a character, or behind an unused lead. -/
theorem next_incomplete_iff {bytes : List UInt8} (nonempty : bytes ≠ []) :
    (next bytes false).decoded = .incomplete ↔ Opens bytes ∨ bytes = [0xC0] ∨ bytes = [0xC1] := by
  obtain ⟨lead, bytes, rfl⟩ := List.exists_cons_of_ne_nil nonempty
  simp only [List.cons.injEq]
  rcases lead_cases lead with zero | ascii | unused | ⟨later, long, least⟩
  · have closed : ¬Opens (lead :: bytes) := not_opens_of_lead (by omega) bytes
    have other : ¬(lead = 0xC0 ∨ lead = 0xC1) := by
      rintro (rfl | rfl) <;> simp [sequenceLength] at zero
    simp [next, zero, closed, ← or_and_right, other]
  · have one := sequenceLength_eq_one_iff.mpr ascii
    have closed : ¬Opens (lead :: bytes) := not_opens_of_lead (by omega) bytes
    have other : ¬(lead = 0xC0 ∨ lead = 0xC1) := by
      rintro (rfl | rfl) <;> simp at ascii
    simp [next, one, closed, ← or_and_right, other]
  · -- The byte behind such a lead decides the step, whatever it is.
    have closed := not_opens_of_unused unused bytes
    rw [next_of_unused unused]
    cases bytes with
    | nil => simp [overlong, unused]
    | cons byte bytes =>
      rw [overlong]
      split <;> simp [closed]
  · simp [← opens_iff_of_lead long least, ← or_and_right, not_unused least]

/-- UTF-8 reads the shortest form of a scalar value, and uses up a maximal subpart of other input.

Only where more input could make a difference does a step wait for it. -/
theorem next_scalar_or_subpart {bytes : List UInt8} (nonempty : bytes ≠ []) :
    (∀ code length, next bytes true = ⟨.scalar code, length⟩ ↔
      length ≤ bytes.length ∧ encode code = .ok (bytes.take length)) ∧
    ((∀ code, (next bytes true).decoded ≠ .scalar code) → Subpart bytes (next bytes true)) ∧
    ((next bytes false).decoded = .incomplete ↔
      Opens bytes ∨ bytes = [0xC0] ∨ bytes = [0xC1]) ∧
    ((next bytes false).decoded = .incomplete → (next bytes false).length = 0) ∧
    ((next bytes false).decoded ≠ .incomplete → next bytes false = next bytes true) := by
  refine ⟨fun code length => ?_, subpart_of_next nonempty, next_incomplete_iff nonempty,
    fun open_ => (streams.waiting bytes nonempty open_).1, fun decided => ?_⟩
  · rw [next_eq_scalar_iff]
    -- What is written for the character is what the bytes begin with.
    constructor
    · intro read
      obtain ⟨piece, rest, written, rfl, rfl⟩ := read
      exact ⟨by simp, by rw [List.take_left, written]⟩
    · intro begins
      obtain ⟨inside, written⟩ := begins
      exact ⟨_, bytes.drop length, written, (List.take_append_drop length bytes).symm,
        by rw [List.length_take, Nat.min_eq_left inside]⟩
  · -- A step that is decided stays the same when the input turns out to end here.
    rw [← streams.settled bytes [] true nonempty decided, List.append_nil]

/-- The first two bytes of a euro sign are used up together in front of a letter. -/
theorem next_scalar_or_subpart_euro :
    [0xE2, 0x82, 0x41] ≠ ([] : List UInt8) ∧
      Subpart [0xE2, 0x82, 0x41] ⟨.illegal, 2⟩ ∧ ¬Opens [0xE2, 0x82, 0x41] := by
  -- The two bytes of the euro sign are one piece, since the letter behind them is no trail.
  have nonempty : [0xE2, 0x82, 0x41] ≠ ([] : List UInt8) := by decide
  have read : next [0xE2, 0x82, 0x41] true = ⟨.illegal, 2⟩ := by decide
  have spec := next_scalar_or_subpart nonempty
  have subpart := spec.2.1 (by simp [read])
  rw [read] at subpart
  refine ⟨nonempty, subpart, fun opens => ?_⟩
  rcases subpart.decoded with ⟨-, cut⟩ | ⟨closed, -⟩
  · simp at cut
  · exact closed opens

end UniText.Utf8
