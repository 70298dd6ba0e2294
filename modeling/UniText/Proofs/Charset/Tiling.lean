import UniText.Proofs.Charset.Lenient
import UniText.Proofs.Charset.Resuming

/-! Walks cover their buffer without a gap, in the same pieces whatever the policy. -/

namespace UniText

/-- Pieces that follow each other from one place to another, without a gap or an overlap.

A piece is given by its place and its length, which is one at least and has an upper bound. -/
def Tiles (longest : Nat) : (first last : Nat) → List (Nat × Nat) → Prop
  | first, last, [] => first = last
  | first, last, (place, length) :: others =>
    place = first ∧ 1 ≤ length ∧ length ≤ longest ∧ Tiles longest (first + length) last others

namespace Charset

/-- A step at the end of the input moves on by one byte at least, within the bytes that are there,
and by no more than a character can take. -/
theorem advance_next_bounds (charset : Charset) {bytes : List UInt8} (nonempty : bytes ≠ []) :
    1 ≤ (charset.next bytes true).advance ∧
      (charset.next bytes true).advance ≤ charset.maxLength ∧
      (charset.next bytes true).advance ≤ bytes.length := by
  obtain ⟨-, positive, within⟩ := charset.streams.ending bytes nonempty
  rw [Step.advance_eq positive]
  refine ⟨positive, ?_, within⟩
  by_cases waits : (charset.next bytes false).decoded = .incomplete
  · -- Bytes that would still wait are themselves fewer than those of a character.
    have few := (charset.streams.waiting bytes nonempty waits).2
    omega
  · -- A step that is decided before the end is the same at the end.
    have same := charset.streams.settled bytes [] true nonempty waits
    rw [List.append_nil] at same
    rw [same]
    exact (charset.streams.covered bytes nonempty waits).2.2

/-- The steps that cover some bytes, each with the place at which it begins. -/
def stepsFrom (charset : Charset) (position : Nat) : List UInt8 → List (Nat × Step)
  | [] => []
  | byte :: rest =>
    let step := charset.next (byte :: rest) true
    -- The front byte is used in any case, and the rest of the step after it.
    (position, step) :: charset.stepsFrom (position + step.advance) (rest.drop (step.advance - 1))
termination_by bytes => bytes.length
decreasing_by
  simp only [List.length_drop, List.length_cons]
  omega

/-- The steps that cover some bytes are the one at their front, and those behind it. -/
theorem stepsFrom_eq (charset : Charset) (position : Nat) {bytes : List UInt8}
    (nonempty : bytes ≠ []) {step : Step} (taken : charset.next bytes true = step) :
    charset.stepsFrom position bytes
      = (position, step) :: charset.stepsFrom (position + step.advance)
          (bytes.drop step.advance) := by
  obtain ⟨byte, rest, rfl⟩ := List.exists_cons_of_ne_nil nonempty
  subst taken
  -- Dropping the front byte first leaves one less to drop behind it.
  have moved := Step.advance_pos (charset.next (byte :: rest) true)
  obtain ⟨more, same⟩ := Nat.exists_eq_add_of_le' moved
  rw [stepsFrom]
  simp [same]

/-- The place and the length of the piece that a step covers. -/
def pieceOf (placed : Nat × Step) : Nat × Nat := (placed.1, placed.2.advance)

/-- The steps that cover some bytes begin at the first of them and end behind the last one. -/
theorem tiles_stepsFrom (charset : Charset) (position : Nat) (bytes : List UInt8) :
    Tiles charset.maxLength position (position + bytes.length)
      ((charset.stepsFrom position bytes).map pieceOf) := by
  -- Every step leaves fewer bytes behind it.
  induction size : bytes.length using Nat.strongRecOn generalizing position bytes with
  | ind size ih =>
    subst size
    by_cases nonempty : bytes = []
    · subst nonempty
      rw [stepsFrom]
      rfl
    · obtain ⟨positive, short, within⟩ := charset.advance_next_bounds nonempty
      rw [charset.stepsFrom_eq position nonempty rfl, List.map_cons]
      refine ⟨rfl, positive, short, ?_⟩
      have fewer : (bytes.drop (charset.next bytes true).advance).length < bytes.length := by
        rw [List.length_drop]
        omega
      have later := ih _ fewer (position + (charset.next bytes true).advance) _ rfl
      -- What the step covers and what is left behind it are all the bytes together.
      rwa [List.length_drop, Nat.add_assoc, Nat.add_sub_cancel' within] at later

end Charset

namespace Decoder

/-- What a policy makes of a step at a place. -/
def itemOf (policy : ErrorPolicy) (placed : Nat × Step) : Except CodecError DecodedChar :=
  match placed.2.decoded.resolve policy with
  | .ok code => .ok ⟨code, placed.1, placed.2.advance⟩
  | .error fault => .error ⟨fault, placed.1, placed.2.advance⟩

/-- The place and the length of the piece that an item is about. -/
def span : Except CodecError DecodedChar → Nat × Nat
  | .ok char => (char.offset, char.length)
  | .error error => (error.offset, error.length)

/-- The policy makes no difference to the piece that an item is about. -/
@[simp] theorem span_itemOf (policy : ErrorPolicy) (placed : Nat × Step) :
    span (itemOf policy placed) = Charset.pieceOf placed := by
  -- An item covers its step, be it a character or an error.
  unfold itemOf
  split <;> rfl

/-- A walk that goes on behind every error takes the steps that cover what is ahead of it. -/
theorem itemsResuming_eq (charset : Charset) (policy : ErrorPolicy) (source : List UInt8)
    (position : Nat) :
    itemsResuming ⟨charset, policy, source, position, false⟩
      = (charset.stepsFrom position (source.drop position)).map (itemOf policy) := by
  induction ahead : source.length - position using Nat.strongRecOn generalizing position with
  | ind ahead ih =>
    subst ahead
    by_cases ended : source.length ≤ position
    · rw [itemsResuming_of_le ended, List.drop_eq_nil_of_le ended, Charset.stepsFrom]
      rfl
    · have inside : position < source.length := Nat.not_le.mp ended
      have nonempty : source.drop position ≠ [] := by simp [inside]
      obtain ⟨positive, -, within⟩ := charset.advance_next_bounds nonempty
      rw [List.length_drop] at within
      have closer : source.length - (position + (charset.next (source.drop position) true).advance)
          < source.length - position := by omega
      -- The walk and the cover both begin with the step at the front, and go on behind it.
      rw [itemsResuming_of_lt rfl inside rfl (by simp only; omega),
        charset.stepsFrom_eq position nonempty rfl, List.map_cons, List.drop_drop]
      exact congrArg _ (ih _ closer _ rfl)

/-- The items that are still to come are the next one and those behind it. -/
theorem items_of_next? {decoder after : Decoder} {item : Except CodecError DecodedChar}
    (found : decoder.next? = some (item, after)) : decoder.items = item :: after.items := by
  -- The walk is drained from its front.
  rw [items, drain]
  split
  · next none => simp [found] at none
  · next other =>
    rw [found, Option.some.injEq, Prod.mk.injEq] at other
    obtain ⟨rfl, rfl⟩ := other
    rfl

/-- No items are to come when there is no next one. -/
theorem items_of_next?_none {decoder : Decoder} (ended : decoder.next? = none) :
    decoder.items = [] := by
  -- There is nothing to be drained.
  rw [items, drain]
  split
  · rfl
  · next found => simp [ended] at found

/-- A lenient walk meets no error, so that it need not be resumed. -/
theorem items_eq_itemsResuming {decoder : Decoder} (lenient : decoder.policy ≠ .strict) :
    decoder.items = decoder.itemsResuming := by
  induction far : decoder.distance using Nat.strongRecOn generalizing decoder with
  | ind far ih =>
    subst far
    rw [itemsResuming]
    split
    · next ended => exact items_of_next?_none ended
    · next char after found =>
      rw [items_of_next? found]
      -- The walk behind a code point has the same policy.
      obtain ⟨-, -, ⟨_, -, -, same⟩ | ⟨_, -, refused, -⟩⟩ := next?_eq_some found rfl
      · exact congrArg _ (ih _ (distance_lt_of_next? found) (by rwa [same]) rfl)
      · simp at refused
    · next error after found =>
      obtain ⟨-, -, ⟨_, -, same, -⟩ | ⟨fault, refused, -, -⟩⟩ := next?_eq_some found rfl
      · simp at same
      · obtain ⟨code, resolved⟩ := Decoded.exists_resolve lenient
          (decoder.charset.next (decoder.source.drop decoder.position) true).decoded
        simp [resolved] at refused

/-- A lenient walk over a buffer takes the steps that cover it. -/
theorem items_start (charset : Charset) {policy : ErrorPolicy} (lenient : policy ≠ .strict)
    (source : List UInt8) : (start charset policy source).items
      = (charset.stepsFrom 0 source).map (itemOf policy) := by
  -- A lenient walk never stops, so that it takes every step from the front.
  rw [items_eq_itemsResuming lenient, start, itemsResuming_eq, List.drop_zero]

/-- A walk covers its buffer from end to end, in the same pieces under every policy.

A lenient walk yields code points only, for pieces that follow each other without a gap or an
overlap. A strict walk that goes on behind each error yields its items for just these pieces, and
has the same code points as substitution wherever it has no error. -/
theorem tiles_alike (charset : Charset) (source : List UInt8) :
    (∀ policy ≠ .strict,
      (∀ item ∈ (start charset policy source).items, ∃ char, item = .ok char) ∧
      Tiles charset.maxLength 0 source.length ((start charset policy source).items.map span) ∧
      (start charset .strict source).itemsResuming.map span
        = (start charset policy source).items.map span) ∧
    ∀ (index : Nat) (char : DecodedChar),
      (start charset .strict source).itemsResuming[index]? = some (.ok char) →
      (start charset .substitute source).items[index]? = some (.ok char) := by
  have strict : (start charset .strict source).itemsResuming
      = (charset.stepsFrom 0 source).map (itemOf .strict) := by
    rw [start, itemsResuming_eq, List.drop_zero]
  -- The pieces are those of the steps, whatever a policy makes of them.
  have pieces (policy : ErrorPolicy) :
      ((charset.stepsFrom 0 source).map (itemOf policy)).map span
        = (charset.stepsFrom 0 source).map Charset.pieceOf := by
    simp
  rw [strict]
  constructor
  · intro policy lenient
    rw [items_start charset lenient, pieces, pieces]
    refine ⟨?_, ?_, rfl⟩
    · intro item member
      obtain ⟨placed, -, rfl⟩ := List.mem_map.mp member
      obtain ⟨code, resolved⟩ := placed.2.decoded.exists_resolve lenient
      exact ⟨⟨code, placed.1, placed.2.advance⟩, by simp [itemOf, resolved]⟩
    · have covered := charset.tiles_stepsFrom 0 source
      rwa [Nat.zero_add] at covered
  · intro index char found
    rw [List.getElem?_map] at found
    rw [items_start charset (by decide), List.getElem?_map]
    -- The item of either walk is what its policy makes of one and the same step.
    obtain ⟨placed, here, same⟩ := Option.map_eq_some_iff.mp found
    rw [here, Option.map_some, Option.some.injEq]
    -- Only a scalar value is a code point strictly, and every policy takes it as it is.
    unfold itemOf at same ⊢
    split at same
    · next code resolved =>
      rw [Decoded.resolve_strict_eq_ok_iff.mp resolved]
      exact same
    · simp at same

/-- A lead without its trail byte is one piece under every policy, and an error only strictly. -/
theorem tiles_alike_euro :
    let strict := (start .utf8 .strict [0xE2, 0x82, 0x41]).itemsResuming
    let substituting := (start .utf8 .substitute [0xE2, 0x82, 0x41]).items
    strict = [.error ⟨.illegalSequence, 0, 2⟩, .ok ⟨0x41, 2, 1⟩] ∧
      Tiles 4 0 3 (substituting.map span) ∧ strict.map span = substituting.map span ∧
      substituting[1]? = some (.ok ⟨0x41, 2, 1⟩) := by
  -- What is replaced here is reported there, over the same two bytes.
  intro strict substituting
  have items : strict = [.error ⟨.illegalSequence, 0, 2⟩, .ok ⟨0x41, 2, 1⟩] := by decide +kernel
  obtain ⟨lenient, codes⟩ := tiles_alike .utf8 [0xE2, 0x82, 0x41]
  obtain ⟨-, tiles, same⟩ := lenient .substitute (by decide)
  have second : strict[1]? = some (.ok ⟨0x41, 2, 1⟩) := by rw [items]; rfl
  exact ⟨items, tiles, same, codes 1 _ second⟩

end Decoder

end UniText
