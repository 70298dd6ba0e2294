import Mathlib.Algebra.Order.Floor.Div
import UniText.Proofs.Charset.Tiling

/-! How many items a walk has still to come, in terms of the bytes that they cover. -/

namespace UniText

/-- Pieces are no more than what they cover, and cover no more than as many of the longest. -/
theorem Tiles.length_bounds {longest first last : Nat} {pieces : List (Nat × Nat)}
    (tiles : Tiles longest first last pieces) :
    first + pieces.length ≤ last ∧ last ≤ first + longest * pieces.length := by
  -- Each piece adds one at least, and the length of the longest at most.
  induction pieces generalizing first with
  | nil =>
    obtain rfl : first = last := tiles
    simp
  | cons piece others ih =>
    obtain ⟨place, length⟩ := piece
    obtain ⟨-, positive, short, behind⟩ := tiles
    obtain ⟨many, few⟩ := ih behind
    rw [List.length_cons, Nat.mul_succ]
    omega

namespace Decoder

/-- A call on a walk. -/
inductive Call where
  /-- The next item is asked for. -/
  | next
  /-- The walk is to go on at another place. -/
  | resumeAt (offset : Nat)
  deriving DecidableEq, Repr

/-- The walk after a call, which stays as it is when it has no next item. -/
def afterCall (decoder : Decoder) : Call → Decoder
  | .next => match decoder.next? with
    | some (_, after) => after
    | none => decoder
  | .resumeAt offset => decoder.resumeAt offset

/-- The walk after calls that are made one after the other. -/
def afterCalls (decoder : Decoder) (calls : List Call) : Decoder := calls.foldl afterCall decoder

/-- What is true of every walk over a buffer. -/
structure Walks (charset : Charset) (policy : ErrorPolicy) (source : List UInt8)
    (decoder : Decoder) : Prop where
  charset_eq : decoder.charset = charset
  policy_eq : decoder.policy = policy
  source_eq : decoder.source = source
  /-- The next byte to read lies in the buffer, or right behind it. -/
  within : decoder.position ≤ source.length
  /-- Only an error stops a walk, and only a strict one meets any. -/
  strict : decoder.stopped = true → policy = .strict
  /-- A walk stands at the error that has stopped it. -/
  ahead : decoder.stopped = true → decoder.position < source.length

/-- A walk begins at the start of its buffer. -/
theorem walks_start (charset : Charset) (policy : ErrorPolicy) (source : List UInt8) :
    Walks charset policy source (start charset policy source) where
  -- A new walk stands at the front of its buffer and has met no error.
  charset_eq := rfl
  policy_eq := rfl
  source_eq := rfl
  within := Nat.zero_le _
  strict := by simp [start]
  ahead := by simp [start]

namespace Walks

variable {charset : Charset} {policy : ErrorPolicy} {source : List UInt8} {decoder : Decoder}

/-- A walk can go on at any place. -/
theorem resumeAt (walks : Walks charset policy source decoder) (offset : Nat) :
    Walks charset policy source (decoder.resumeAt offset) where
  charset_eq := walks.charset_eq
  policy_eq := walks.policy_eq
  source_eq := walks.source_eq
  within := by
    -- A place behind the buffer counts as its end.
    rw [← walks.source_eq]
    exact Nat.min_le_right ..
  strict := by simp [Decoder.resumeAt]
  ahead := by simp [Decoder.resumeAt]

/-- The next item of a walk covers some of the bytes ahead, no more than a character can take.

A code point moves the walk behind these bytes, and an error stops it in front of them. -/
theorem next (walks : Walks charset policy source decoder) {after : Decoder}
    {item : Except CodecError DecodedChar} (found : decoder.next? = some (item, after)) :
    Walks charset policy source after ∧ decoder.stopped = false ∧
      (span item).1 = decoder.position ∧ 1 ≤ (span item).2 ∧ (span item).2 ≤ charset.maxLength ∧
      decoder.position + (span item).2 ≤ source.length ∧
      ((after.stopped = false ∧ after.position = decoder.position + (span item).2) ∨
        (after.stopped = true ∧ ∃ error, item = .error error)) := by
  obtain ⟨walking, inside, taken⟩ := next?_eq_some found rfl
  obtain ⟨rfl, rfl, rfl, within, -, -⟩ := walks
  -- Both kinds of items are about the piece that one and the same step covers.
  have ahead : decoder.source.drop decoder.position ≠ [] := by simp [inside]
  obtain ⟨positive, short, few⟩ := decoder.charset.advance_next_bounds ahead
  rw [List.length_drop] at few
  have reaches : decoder.position
      + (decoder.charset.next (decoder.source.drop decoder.position) true).advance
        ≤ decoder.source.length := by
    omega
  rcases taken with ⟨code, -, rfl, rfl⟩ | ⟨fault, refused, rfl, rfl⟩
  · have goesOn (halted : decoder.stopped = true) : False := by simp [walking] at halted
    exact ⟨⟨rfl, rfl, rfl, reaches, fun halted => (goesOn halted).elim,
      fun halted => (goesOn halted).elim⟩, walking, rfl, positive, short, reaches,
      .inl ⟨walking, rfl⟩⟩
  · -- A lenient policy has a code point for whatever is met.
    have strict : decoder.policy = .strict := by
      by_contra lenient
      obtain ⟨code, resolved⟩ := Decoded.exists_resolve lenient
        (decoder.charset.next (decoder.source.drop decoder.position) true).decoded
      simp [resolved] at refused
    exact ⟨⟨rfl, rfl, rfl, within, fun _ => strict, fun _ => inside⟩, walking, rfl, positive,
      short, reaches, .inr ⟨rfl, _, rfl⟩⟩

/-- A walk is one after every call. -/
theorem afterCall (walks : Walks charset policy source decoder) (call : Call) :
    Walks charset policy source (decoder.afterCall call) := by
  cases call with
  | next =>
    rw [Decoder.afterCall]
    -- At the end of the buffer nothing moves.
    split
    · next found => exact (walks.next found).1
    · exact walks
  | resumeAt offset => exact walks.resumeAt offset

/-- A walk is one after all calls that follow. -/
theorem afterCalls (walks : Walks charset policy source decoder) (calls : List Call) :
    Walks charset policy source (decoder.afterCalls calls) := by
  -- Each call leaves a walk to those after it.
  induction calls generalizing decoder with
  | nil => exact walks
  | cons call calls ih => exact ih (walks.afterCall call)

/-- What is still to come of a walk covers the bytes ahead, up to the end or to the first error. -/
theorem tiles_items (walks : Walks charset policy source decoder)
    (walking : decoder.stopped = false) :
    ∃ last, Tiles charset.maxLength decoder.position last (decoder.items.map span) ∧
      last ≤ source.length ∧
      (last = source.length ∨
        ∃ error, .error error ∈ decoder.items ∧ error.offset + error.length = last) := by
  -- Every item brings the walk closer to its end.
  induction far : decoder.distance using Nat.strongRecOn generalizing decoder with
  | ind far ih =>
    subst far
    cases found : decoder.next? with
    | none =>
      -- A walk that goes on has a next item until it is at the end of the buffer.
      have ended : source.length ≤ decoder.position := by
        by_contra inside
        rw [next?, walking, walks.source_eq, if_neg (by simpa using inside)] at found
        dsimp only at found
        split at found <;> simp at found
      have within := walks.within
      rw [items_of_next?_none found]
      exact ⟨decoder.position, rfl, within, .inl (by omega)⟩
    | some pair =>
      obtain ⟨item, after⟩ := pair
      obtain ⟨later, -, place, positive, short, inside, goesOn⟩ := walks.next found
      rw [items_of_next? found, List.map_cons]
      rcases goesOn with ⟨still, moved⟩ | ⟨stopped, error, rfl⟩
      · -- The items behind a code point begin where its bytes end.
        obtain ⟨last, tiles, stays, reached⟩ :=
          ih _ (distance_lt_of_next? found) later still rfl
        rw [moved] at tiles
        refine ⟨last, ⟨place, positive, short, tiles⟩, stays, reached.imp_right ?_⟩
        rintro ⟨error, member, ends⟩
        exact ⟨error, .tail _ member, ends⟩
      · -- Behind an error nothing comes any more.
        have nothing : after.items = [] := items_of_next?_none (by simp [next?, stopped])
        simp only [span] at place positive short inside
        rw [nothing]
        exact ⟨decoder.position + error.length, ⟨place, positive, short, rfl⟩, inside,
          .inr ⟨error, .head _, by rw [place]⟩⟩

end Walks

/-- An error keeps a walk from bytes that are ahead of it: one that has stopped it already, or one
that is still to come and does not reach to the end of the buffer. -/
def StopsShort (decoder : Decoder) : Prop :=
  decoder.stopped = true ∨
    ∃ error, .error error ∈ decoder.items ∧ error.offset + error.length < decoder.source.length

/-- A lenient walk is kept from nothing. -/
theorem Walks.not_stopsShort {charset : Charset} {policy : ErrorPolicy} {source : List UInt8}
    {decoder : Decoder} (walks : Walks charset policy source decoder)
    (lenient : policy ≠ .strict) : ¬decoder.StopsShort := by
  rintro (stopped | ⟨error, member, -⟩)
  · exact lenient (walks.strict stopped)
  · -- Such a walk yields what it yields when it goes on behind errors, of which it has none.
    have same : decoder.policy ≠ .strict := by rwa [walks.policy_eq]
    obtain ⟨current, policyOf, bytes, position, stopped⟩ := decoder
    obtain rfl : stopped = false := by
      cases stopped with
      | false => rfl
      | true => exact absurd (walks.strict rfl) lenient
    rw [items_eq_itemsResuming same, itemsResuming_eq] at member
    obtain ⟨placed, -, item⟩ := List.mem_map.mp member
    obtain ⟨code, resolved⟩ := placed.2.decoded.exists_resolve same
    simp [itemOf, resolved] at item

/-- At any point of a walk there are no more items to come than its upper bound says.

There are no fewer than its lower bound says either, unless an error keeps the walk from the end
of its buffer, which never happens under a lenient policy. Once an error has stopped it, nothing
is to come, although the lower bound still counts the bytes ahead. -/
theorem sizeHint_afterCalls (charset : Charset) (policy : ErrorPolicy) (source : List UInt8)
    (calls : List Call) :
    let decoder := (start charset policy source).afterCalls calls
    decoder.items.length ≤ decoder.sizeHint.2 ∧
      (¬decoder.StopsShort → decoder.sizeHint.1 ≤ decoder.items.length) ∧
      (policy ≠ .strict → ¬decoder.StopsShort) ∧
      (decoder.stopped = true → decoder.items = [] ∧ 0 < decoder.sizeHint.1) := by
  intro decoder
  have walks : Walks charset policy source decoder := (walks_start ..).afterCalls calls
  have longest : 0 < charset.maxLength := by cases charset <;> simp [Charset.maxLength]
  have silent (stopped : decoder.stopped = true) : decoder.items = [] :=
    items_of_next?_none (by simp [next?, stopped])
  simp only [sizeHint, walks.charset_eq, walks.source_eq]
  refine ⟨?_, ?_, walks.not_stopsShort, ?_⟩
  · cases stopped : decoder.stopped with
    | true => simp [silent stopped]
    | false =>
      -- Each item covers one byte at least of those ahead.
      obtain ⟨last, tiles, inside, -⟩ := walks.tiles_items stopped
      have many := tiles.length_bounds.1
      rw [List.length_map] at many
      omega
  · intro reaches
    cases stopped : decoder.stopped with
    | true => exact absurd (.inl stopped) reaches
    | false =>
      obtain ⟨last, tiles, inside, ended⟩ := walks.tiles_items stopped
      -- An error that is to come could only be the last item.
      have whole : last = source.length := by
        rcases ended with ended | ⟨error, member, ended⟩
        · exact ended
        · by_contra short
          refine reaches (.inr ⟨error, member, ?_⟩)
          rw [walks.source_eq]
          omega
      have few := tiles.length_bounds.2
      rw [List.length_map] at few
      -- Items that cover all the bytes ahead are as many as the rounded quotient at least.
      rw [← Nat.ceilDiv_eq_add_pred_div, ceilDiv_le_iff_le_mul longest]
      omega
  · intro stopped
    have ahead := walks.ahead stopped
    exact ⟨silent stopped, Nat.div_pos (by omega) longest⟩

/-- The trail bytes of a character are an item each once the walk goes on behind its lead. -/
theorem sizeHint_afterCalls_face :
    let walk := (start .utf8 .substitute [0xF0, 0x9F, 0x98, 0x80, 0x41]).afterCalls
      [.next, .resumeAt 1]
    let stopped := (start .usAscii .strict [0xFF, 0x41]).afterCalls [.next]
    (walk.sizeHint = (1, 4) ∧ walk.items.length = 4 ∧ 1 ≤ walk.items.length ∧
      walk.items.length ≤ 4) ∧ stopped.items = [] := by
  -- Resumed within the face, the walk meets its three trails one by one, and then the letter.
  intro walk stopped
  obtain ⟨most, least, lenient, -⟩ := sizeHint_afterCalls .utf8 .substitute
    [0xF0, 0x9F, 0x98, 0x80, 0x41] [.next, .resumeAt 1]
  obtain ⟨-, -, -, silent⟩ := sizeHint_afterCalls .usAscii .strict [0xFF, 0x41] [.next]
  have hint : walk.sizeHint = (1, 4) := by decide +kernel
  rw [hint] at most least
  exact ⟨⟨hint, by decide +kernel, least (lenient (by decide)), most⟩,
    (silent (by decide +kernel)).1⟩

/-- The lower bound is too high as soon as an error has stopped a walk in front of its last byte. -/
theorem items_lt_sizeHint : ¬∀ (charset : Charset) (policy : ErrorPolicy) (source : List UInt8)
    (calls : List Call), let decoder := (start charset policy source).afterCalls calls
    decoder.sizeHint.1 ≤ decoder.items.length ∧ decoder.items.length ≤ decoder.sizeHint.2 := by
  -- The error has ended the walk, but the bytes behind it are counted all the same.
  intro bounds
  have hint : ((start .usAscii .strict [0xFF, 0x41]).afterCalls [.next]).sizeHint.1 = 2 := by
    decide +kernel
  have nothing : ((start .usAscii .strict [0xFF, 0x41]).afterCalls [.next]).items = [] := by
    decide +kernel
  have least := (bounds .usAscii .strict [0xFF, 0x41] [.next]).1
  simp only [hint, nothing, List.length_nil] at least
  omega

end Decoder

end UniText
