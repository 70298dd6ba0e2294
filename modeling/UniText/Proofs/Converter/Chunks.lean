import UniText.Converter.Basic
import UniText.Proofs.Charset.Streaming

/-! Decoding a stream gives what decoding it in one piece gives, however it is cut into chunks. -/

namespace UniText

/-- A step that covers something is moved over by just that much. -/
theorem Step.advance_eq {step : Step} (positive : 0 < step.length) :
    step.advance = step.length := by
  -- Only a step of no length is made to cover a byte.
  simp only [advance]
  omega

/-- Decoding some bytes takes one step at their front, and then goes on behind it. -/
theorem Charset.decodeFrom_eq (charset : Charset) (policy : ErrorPolicy) (offset : Nat)
    {bytes : List UInt8} (nonempty : bytes ≠ []) {step : Step}
    (taken : charset.next bytes true = step) : charset.decodeFrom policy offset bytes =
      match step.decoded.resolve policy with
      | .error fault => .stop ⟨fault, offset, step.advance⟩
      | .ok code => (charset.decodeFrom policy (offset + step.advance)
          (bytes.drop step.advance)).before [code] := by
  obtain ⟨byte, rest, rfl⟩ := List.exists_cons_of_ne_nil nonempty
  subst taken
  -- Dropping the front byte first leaves one less to drop behind it.
  have moved := Step.advance_pos (charset.next (byte :: rest) true)
  obtain ⟨more, same⟩ := Nat.exists_eq_add_of_le' moved
  cases resolved : (charset.next (byte :: rest) true).decoded.resolve policy with
  | error fault => simp [decodeFrom, resolved]
  | ok code => simp [decodeFrom, resolved, same]

namespace Converter

/-- Held bytes are none at all, or the front of a character that is not yet complete. -/
def Waits (charset : Charset) (held : List UInt8) : Prop :=
  held = [] ∨ (charset.next held false).decoded = .incomplete

/-- The outcome of reading some bytes agrees with decoding them and whatever comes after them.

At the end of a stream nothing comes after them. -/
inductive Reads (converter : Converter) (bytes : List UInt8) (atEnd : Bool) :
    Progress CodePoint × Converter → Prop
  /-- An error is the one that stops the decoding of the whole, after the same output. -/
  | failed {output : List CodePoint} {error : CodecError} {after : Converter}
    (whole : ∀ rest, (atEnd = true → rest = []) →
      converter.charset.decodeFrom converter.policy converter.position (bytes ++ rest)
        = ⟨output, some error⟩) :
    Reads converter bytes atEnd (⟨output, some error⟩, after)
  /-- Without an error, the bytes that were not used are held, and decoding goes on with them. -/
  | passed {output : List CodePoint} {used : Nat} (within : used ≤ bytes.length)
    (waits : Waits converter.charset (bytes.drop used))
    (ended : atEnd = true → bytes.drop used = [])
    (whole : ∀ rest, (atEnd = true → rest = []) →
      converter.charset.decodeFrom converter.policy converter.position (bytes ++ rest)
        = (converter.charset.decodeFrom converter.policy (converter.position + used)
            (bytes.drop used ++ rest)).before output) :
    Reads converter bytes atEnd (⟨output, none⟩,
      { converter with pending := bytes.drop used, position := converter.position + used })

/-- Nothing has been read when everything is held. -/
theorem Reads.hold (converter : Converter) {bytes : List UInt8} {atEnd : Bool}
    (waits : Waits converter.charset bytes) (ended : atEnd = true → bytes = []) :
    Reads converter bytes atEnd (.done, { converter with pending := bytes }) := by
  -- To hold the bytes is to pass over none of them.
  have held : Reads converter bytes atEnd (⟨[], none⟩, { converter with
      pending := bytes.drop 0, position := converter.position + 0 }) :=
    .passed (Nat.zero_le _) waits ended fun _ _ => rfl
  exact held

/-- What a converter held before makes no difference to how other bytes are read. -/
theorem Reads.forget {converter : Converter} {held bytes : List UInt8} {atEnd : Bool}
    {outcome : Progress CodePoint × Converter}
    (reads : Reads { converter with pending := held } bytes atEnd outcome) :
    Reads converter bytes atEnd outcome := by
  -- What was held before is not mentioned in what is read.
  cases reads with
  | failed whole => exact .failed whole
  | passed within waits ended whole => exact .passed within waits ended whole

/-- A step at the front of some bytes that remains the same whatever comes after them. -/
structure Settles (charset : Charset) (bytes : List UInt8) (atEnd : Bool) (step : Step) : Prop where
  nonempty : bytes ≠ []
  positive : 0 < step.length
  within : step.length ≤ bytes.length
  same : ∀ rest, (atEnd = true → rest = []) → charset.next (bytes ++ rest) true = step

/-- The step at the front of a window settles the bytes that the window belongs to.

The window ends where the bytes end, unless it is as long as any character. -/
theorem settles_of_window {charset : Charset} {window beyond : List UInt8} {atEnd : Bool}
    (nonempty : window ≠ []) {windowEnd : Bool}
    (closes : windowEnd = true → atEnd = true ∧ beyond = [])
    (decided : (charset.next window windowEnd).decoded ≠ .incomplete) :
    Settles charset (window ++ beyond) atEnd (charset.next window windowEnd) := by
  have streams := charset.streams
  cases windowEnd with
  | true =>
    -- Nothing comes after the window at all.
    obtain ⟨ends, rfl⟩ := closes rfl
    obtain ⟨-, positive, within⟩ := streams.ending window nonempty
    rw [List.append_nil]
    refine ⟨nonempty, positive, within, ?_⟩
    intro rest none
    rw [none ends, List.append_nil]
  | false =>
    -- A decided step stays the same whatever comes after the window.
    obtain ⟨positive, within, -⟩ := streams.covered window nonempty decided
    refine ⟨by simp [nonempty], positive, ?_, ?_⟩
    · rw [List.length_append]
      omega
    · intro rest _
      rw [List.append_assoc]
      exact streams.settled window (beyond ++ rest) true nonempty decided

/-- A settled step that is an error stops the reading. -/
theorem Settles.error {converter : Converter} {bytes : List UInt8} {atEnd : Bool} {step : Step}
    (settles : Settles converter.charset bytes atEnd step) {fault : Fault}
    (refused : step.decoded.resolve converter.policy = .error fault) (after : Converter) :
    Reads converter bytes atEnd (.stop (converter.errorAt step fault), after) := by
  -- The decoding of the whole takes the same step first.
  apply Reads.failed
  intro rest none
  have nonempty : bytes ++ rest ≠ [] := by simp [settles.nonempty]
  rw [Charset.decodeFrom_eq _ _ _ nonempty (settles.same rest none), refused]
  rfl

/-- A settled step with a code point goes before what is read behind it. -/
theorem Settles.ok {converter : Converter} {bytes : List UInt8} {atEnd : Bool} {step : Step}
    (settles : Settles converter.charset bytes atEnd step) {code : CodePoint}
    (found : step.decoded.resolve converter.policy = .ok code) {later : Progress CodePoint}
    {after : Converter} {held : List UInt8}
    (reads : Reads (converter.move step held) (bytes.drop step.advance) atEnd (later, after)) :
    Reads converter bytes atEnd (later.before [code], after) := by
  have covers := Step.advance_eq settles.positive
  -- One step of the whole decoding leaves what the reading behind the step is about.
  have front (rest : List UInt8) (none : atEnd = true → rest = []) :
      converter.charset.decodeFrom converter.policy converter.position (bytes ++ rest)
        = (converter.charset.decodeFrom converter.policy (converter.position + step.advance)
            (bytes.drop step.advance ++ rest)).before [code] := by
    have nonempty : bytes ++ rest ≠ [] := by simp [settles.nonempty]
    rw [Charset.decodeFrom_eq _ _ _ nonempty (settles.same rest none), found]
    simp only
    rw [List.drop_append_of_le_length (by rw [covers]; exact settles.within)]
  cases reads with
  | failed whole =>
    -- An error further on stops the whole there, after one more code point.
    apply Reads.failed
    intro rest none
    have behind := whole rest none
    simp only [move] at behind
    rw [front rest none, behind]
    rfl
  | @passed output used within waits ended whole =>
    simp only [List.drop_drop] at waits ended
    have moved : Reads converter bytes atEnd (⟨[code] ++ output, .none⟩, { converter with
        pending := bytes.drop (step.advance + used)
        position := converter.position + (step.advance + used) }) := by
      refine .passed ?_ waits ended ?_
      · have := settles.within
        rw [List.length_drop] at within
        omega
      · intro rest none
        have behind := whole rest none
        simp only [move, List.drop_drop, Nat.add_assoc] at behind
        rw [front rest none, behind]
        simp [Progress.before]
    simpa only [move, List.drop_drop, Nat.add_assoc, Progress.before] using moved

/-- One step of decoding a chunk, in terms of the bytes that it leaves behind. -/
theorem decodeChunk_eq (flush : Bool) (converter : Converter) {bytes : List UInt8}
    (nonempty : bytes ≠ []) {step : Step} (taken : converter.charset.next bytes flush = step) :
    decodeChunk flush converter bytes =
      if step.decoded = .incomplete then (.done, { converter with pending := bytes })
      else match step.decoded.resolve converter.policy with
        | .error fault => (.stop (converter.errorAt step fault), converter.move step [])
        | .ok code =>
          let (later, after) :=
            decodeChunk flush (converter.move step []) (bytes.drop step.advance)
          (later.before [code], after) := by
  obtain ⟨byte, rest, rfl⟩ := List.exists_cons_of_ne_nil nonempty
  subst taken
  -- The function itself drops the front byte first.
  have moved := Step.advance_pos (converter.charset.next (byte :: rest) flush)
  obtain ⟨more, same⟩ := Nat.exists_eq_add_of_le' moved
  cases resolved : (converter.charset.next (byte :: rest) flush).decoded.resolve
      converter.policy with
  | error fault => simp [decodeChunk, resolved]
  | ok code => simp [decodeChunk, resolved, same]

/-- One step of decoding held bytes, in terms of the bytes that it leaves behind. -/
theorem decodeHeld_eq (flush : Bool) (converter : Converter) (chunk : List UInt8)
    {held : List UInt8} (nonempty : held ≠ []) {window : List UInt8}
    (seen : window = held ++ chunk.take converter.charset.maxLength) {step : Step}
    (taken : converter.charset.next window
      (flush && chunk.length ≤ converter.charset.maxLength) = step) :
    decodeHeld flush converter chunk held =
      if step.decoded = .incomplete then (.done, { converter with pending := window })
      else match step.decoded.resolve converter.policy with
        | .error fault => (.stop (converter.errorAt step fault), converter.move step [])
        | .ok code =>
          let (later, after) :=
            if held.length ≤ step.advance then
              decodeChunk flush (converter.move step []) (chunk.drop (step.advance - held.length))
            else decodeHeld flush (converter.move step []) chunk (held.drop step.advance)
          (later.before [code], after) := by
  obtain ⟨byte, others, rfl⟩ := List.exists_cons_of_ne_nil nonempty
  subst seen taken
  -- As for a chunk, the front byte is dropped first.
  have moved := Step.advance_pos (converter.charset.next
    (byte :: (others ++ chunk.take converter.charset.maxLength))
    (flush && chunk.length ≤ converter.charset.maxLength))
  obtain ⟨more, same⟩ := Nat.exists_eq_add_of_le' moved
  cases resolved : (converter.charset.next
      (byte :: (others ++ chunk.take converter.charset.maxLength))
      (flush && chunk.length ≤ converter.charset.maxLength)).decoded.resolve converter.policy with
  | error fault => simp [decodeHeld, resolved]
  | ok code => simp [decodeHeld, resolved, same]

/-- Decoding a chunk reads it as the decoding of the whole stream does. -/
theorem reads_decodeChunk (flush : Bool) (converter : Converter) (bytes : List UInt8)
    (empty : converter.pending = []) :
    Reads converter bytes flush (decodeChunk flush converter bytes) := by
  -- Every step leaves fewer bytes behind it.
  induction size : bytes.length using Nat.strongRecOn generalizing converter bytes with
  | _ size ih =>
    by_cases nonempty : bytes = []
    · obtain ⟨charset, policy, pending, position⟩ := converter
      simp only at empty
      subst nonempty empty
      rw [decodeChunk]
      exact .hold ⟨charset, policy, [], position⟩ (.inl rfl) fun _ => rfl
    · rw [decodeChunk_eq flush converter nonempty rfl]
      have streams := converter.charset.streams
      split
      · next open_ =>
        -- At the end of the stream no step waits.
        have going : flush = false := by
          cases flush with
          | false => rfl
          | true => exact absurd open_ (streams.ending bytes nonempty).1
        subst going
        exact .hold converter (.inr open_) (by simp)
      · next decided =>
        -- The window is all of the chunk, so that nothing lies beyond it.
        have settles : Settles converter.charset (bytes ++ []) flush
            (converter.charset.next bytes flush) := by
          apply settles_of_window nonempty _ decided
          intro ends
          exact ⟨ends, rfl⟩
        rw [List.append_nil] at settles
        split
        · next refused =>
          exact settles.error refused _
        · next code found =>
          -- The bytes behind the step are fewer, and no byte is held in front of them.
          have moved := settles.positive
          have within := settles.within
          apply settles.ok found
          apply ih _ _ (converter.move _ []) _ rfl rfl
          rw [List.length_drop, Step.advance_eq moved]
          omega

/-- The step at the front of held bytes settles them, or it waits for more than the whole chunk. -/
theorem window_cases (charset : Charset) {held : List UInt8} (nonempty : held ≠ [])
    (chunk : List UInt8) (flush : Bool) {step : Step}
    (taken : charset.next (held ++ chunk.take charset.maxLength)
      (flush && chunk.length ≤ charset.maxLength) = step) :
    (step.decoded = .incomplete ∧ flush = false ∧ chunk.length ≤ charset.maxLength) ∨
    (step.decoded ≠ .incomplete ∧ Settles charset (held ++ chunk) flush step) := by
  have streams := charset.streams
  have window : held ++ chunk.take charset.maxLength ≠ [] := by simp [nonempty]
  subst taken
  by_cases open_ : (charset.next (held ++ chunk.take charset.maxLength)
      (flush && chunk.length ≤ charset.maxLength)).decoded = .incomplete
  · refine .inl ⟨open_, ?_⟩
    -- A window that waits is shorter than a character, so that the whole chunk is in it.
    cases ending : flush && decide (chunk.length ≤ charset.maxLength) with
    | true =>
      rw [ending] at open_
      exact absurd open_ (streams.ending _ window).1
    | false =>
      rw [ending] at open_
      obtain ⟨-, short⟩ := streams.waiting _ window open_
      rw [List.length_append, List.length_take] at short
      have whole : chunk.length ≤ charset.maxLength := by omega
      exact ⟨by simpa [whole] using ending, whole⟩
  · -- What lies beyond the window is the part of the chunk that it leaves out.
    have settles : Settles charset
        (held ++ chunk.take charset.maxLength ++ chunk.drop charset.maxLength) flush
        (charset.next (held ++ chunk.take charset.maxLength)
          (flush && chunk.length ≤ charset.maxLength)) := by
      apply settles_of_window window _ open_
      intro ends
      simpa using ends
    rw [List.append_assoc, List.take_append_drop] at settles
    exact .inr ⟨open_, settles⟩

/-- Decoding held bytes and a chunk reads them as the decoding of the whole stream does. -/
theorem reads_decodeHeld (flush : Bool) (converter : Converter) (chunk held : List UInt8) :
    Reads converter (held ++ chunk) flush (decodeHeld flush converter chunk held) := by
  -- Every step leaves fewer held bytes behind it, until all of them are used.
  induction size : held.length using Nat.strongRecOn generalizing converter held with
  | _ size ih =>
    by_cases nonempty : held = []
    · subst nonempty
      rw [decodeHeld]
      exact (reads_decodeChunk flush { converter with pending := [] } chunk rfl).forget
    · obtain ⟨step, taken⟩ : ∃ step, converter.charset.next
          (held ++ chunk.take converter.charset.maxLength)
          (flush && chunk.length ≤ converter.charset.maxLength) = step := ⟨_, rfl⟩
      rw [decodeHeld_eq flush converter chunk nonempty rfl taken]
      rcases window_cases converter.charset nonempty chunk flush taken with
        ⟨open_, going, whole⟩ | ⟨decided, settles⟩
      · -- The window holds the whole chunk, and all of it is held.
        rw [if_pos open_]
        subst going
        rw [Bool.false_and] at taken
        rw [List.take_of_length_le whole] at taken ⊢
        exact .hold converter (.inr (taken ▸ open_)) (by simp)
      · rw [if_neg decided]
        have moved := settles.positive
        have covers := Step.advance_eq moved
        cases found : step.decoded.resolve converter.policy with
        | error fault => exact settles.error found _
        | ok code =>
          by_cases used : held.length ≤ step.advance
          · -- The step used all the held bytes, so that only the chunk is left to be read.
            simp only [if_pos used]
            apply settles.ok found
            rw [List.drop_append, List.drop_eq_nil_of_le used, List.nil_append]
            exact reads_decodeChunk flush (converter.move step []) _ rfl
          · -- What is left of the held bytes is looked at again, with the whole chunk behind it.
            have short : step.advance ≤ held.length := by omega
            simp only [if_neg used]
            apply settles.ok found
            rw [List.drop_append_of_le_length short]
            apply ih _ _ (converter.move step []) _ rfl
            rw [List.length_drop]
            omega

/-- Decoding a chunk of a stream reads what was held before it and the chunk. -/
theorem reads_decode (converter : Converter) (chunk : List UInt8) (flush : Bool) :
    Reads converter (converter.pending ++ chunk) flush (converter.decode chunk flush) :=
  reads_decodeHeld flush converter chunk converter.pending

/-- Bytes that were read and more bytes after them are read together. -/
theorem Reads.trans {converter between after : Converter} {bytes more : List UInt8} {atEnd : Bool}
    {output : List CodePoint} {later : Progress CodePoint}
    (first : Reads converter bytes false (⟨output, none⟩, between))
    (second : Reads between (between.pending ++ more) atEnd (later, after)) :
    Reads converter (bytes ++ more) atEnd (later.before output, after) := by
  cases first with
  | @passed _ used within waits ended whole =>
    -- The decoding of the whole reaches the bytes that are held between the two.
    have reached (rest : List UInt8) := whole (more ++ rest) (by simp)
    cases second with
    | failed stopped =>
      apply Reads.failed
      intro rest none
      have behind := stopped rest none
      simp only [List.append_assoc] at behind
      rw [List.append_assoc, reached, behind]
      rfl
    | @passed output' used' within' waits' ended' whole' =>
      -- What the second holds is the end of all the bytes together.
      have joined : bytes.drop used ++ more = (bytes ++ more).drop used :=
        (List.drop_append_of_le_length within).symm
      simp only [joined, List.drop_drop, List.length_drop] at within' waits' ended' whole'
      have moved : Reads converter (bytes ++ more) atEnd (⟨output ++ output', none⟩,
          { converter with
            pending := (bytes ++ more).drop (used + used')
            position := converter.position + (used + used') }) := by
        refine .passed ?_ waits' ended' ?_
        · rw [List.length_append] at within' ⊢
          omega
        · intro rest none
          have behind := whole' rest none
          rw [← joined, List.append_assoc, Nat.add_assoc] at behind
          rw [List.append_assoc, reached, behind]
          simp [Progress.before]
      simpa only [joined, List.drop_drop, Nat.add_assoc, Progress.before] using moved

/-- Decodes chunks one after the other, without ending the stream, up to the first error. -/
def decodeChunks (converter : Converter) : List (List UInt8) → Progress CodePoint × Converter
  | [] => (.done, converter)
  | chunk :: chunks =>
    let (now, after) := converter.decode chunk false
    -- What comes after an error is not decoded any more.
    match now.error with
    | some _ => (now, after)
    | none =>
      let (later, final) := after.decodeChunks chunks
      (later.before now.output, final)

/-- Decodes a stream that arrives in chunks, of which the last one ends it. -/
def decodeStream (converter : Converter) (chunks : List (List UInt8)) (last : List UInt8) :
    Progress CodePoint × Converter :=
  let (now, after) := converter.decodeChunks chunks
  match now.error with
  | some _ => (now, after)
  | none =>
    let (later, final) := after.decode last true
    (later.before now.output, final)

/-- Chunks are read as the decoding of all their bytes does. -/
theorem reads_decodeChunks (converter : Converter) (chunks : List (List UInt8))
    (waits : Waits converter.charset converter.pending) :
    Reads converter (converter.pending ++ chunks.flatten) false
      (converter.decodeChunks chunks) := by
  -- What is read of the first chunk goes before what is read of the others.
  induction chunks generalizing converter with
  | nil =>
    rw [List.flatten_nil, List.append_nil]
    exact .hold converter waits (by simp)
  | cons chunk chunks ih =>
    have first := reads_decode converter chunk false
    rw [List.flatten_cons, ← List.append_assoc, decodeChunks]
    generalize converter.decode chunk false = outcome at first
    cases first with
    | failed whole =>
      -- The chunks behind the error are never looked at.
      apply Reads.failed
      intro rest _
      rw [List.append_assoc]
      exact whole _ (by simp)
    | passed within held ended whole =>
      exact Reads.trans (.passed within held ended whole) (ih _ held)

/-- A stream of chunks is read as the decoding of all its bytes does. -/
theorem reads_decodeStream (converter : Converter) (chunks : List (List UInt8))
    (last : List UInt8) (waits : Waits converter.charset converter.pending) :
    Reads converter (converter.pending ++ (chunks.flatten ++ last)) true
      (converter.decodeStream chunks last) := by
  -- The last chunk is read behind all the others, with nothing to come after it.
  have first := reads_decodeChunks converter chunks waits
  rw [← List.append_assoc, decodeStream]
  generalize converter.decodeChunks chunks = outcome at first
  cases first with
  | failed whole =>
    apply Reads.failed
    intro rest _
    rw [List.append_assoc]
    exact whole _ (by simp)
  | passed within held ended whole =>
    exact Reads.trans (.passed within held ended whole) (reads_decode _ last true)

/-- What has been read up to the end of a stream is the decoding of the whole. -/
theorem Reads.eq_decodeFrom {converter : Converter} {bytes : List UInt8}
    {outcome : Progress CodePoint × Converter} (reads : Reads converter bytes true outcome) :
    outcome.1 = converter.charset.decodeFrom converter.policy converter.position bytes := by
  cases reads with
  | failed whole => simpa using (whole [] fun _ => rfl).symm
  | passed within waits ended whole =>
    -- Nothing is left to decode, so that the output is complete.
    have all := whole [] fun _ => rfl
    rw [List.append_nil, List.append_nil, ended rfl, Charset.decodeFrom] at all
    simpa [Progress.before, Progress.done] using all.symm

/-- What was read without an error is used up to the bytes that are held. -/
theorem Reads.held {converter after : Converter} {bytes : List UInt8} {atEnd : Bool}
    {output : List CodePoint} (reads : Reads converter bytes atEnd (⟨output, none⟩, after)) :
    after.position + after.pending.length = converter.position + bytes.length ∧
      after.pending = bytes.drop (after.position - converter.position) ∧
      Waits converter.charset after.pending ∧ (atEnd = true → after.pending = []) := by
  cases reads with
  | passed within waits ended =>
    -- The position tells how many bytes were used, and all the others are held.
    refine ⟨?_, ?_, waits, ended⟩
    · simp only [List.length_drop]
      omega
    · simp only [Nat.add_sub_cancel_left]

/-- Held bytes are fewer than those of the longest character. -/
theorem Waits.length_lt {charset : Charset} {held : List UInt8} (waits : Waits charset held) :
    held.length < charset.maxLength := by
  by_cases empty : held = []
  · -- Every charset has characters of one byte at least.
    subst empty
    cases charset <;> simp [Charset.maxLength]
  · rcases waits with rfl | open_
    · exact absurd rfl empty
    · exact (charset.streams.waiting held empty open_).2

/-- Decoding a stream does not depend on how it is cut into chunks.

The output and the first error are those of decoding the whole in one piece. As long as there is no
error, the bytes not yet decoded are held, which are none or the front of a character; after the
end of the stream none are. -/
theorem decodeStream_new (charset : Charset) (policy : ErrorPolicy) (chunks : List (List UInt8))
    (last : List UInt8) :
    ((new charset policy).decodeStream chunks last).1
        = charset.decode policy (chunks.flatten ++ last) ∧
      (∀ output after, (new charset policy).decodeChunks chunks = (⟨output, none⟩, after) →
        after.position + after.pending.length = chunks.flatten.length ∧
          after.pending = chunks.flatten.drop after.position ∧
          (after.pending = [] ∨ (charset.next after.pending false).decoded = .incomplete) ∧
          after.pending.length < charset.maxLength) ∧
      (∀ output after, (new charset policy).decodeStream chunks last = (⟨output, none⟩, after) →
        after.pending = [] ∧ after.position = (chunks.flatten ++ last).length) := by
  -- A new converter holds nothing, and has used nothing.
  have nothing : Waits charset (new charset policy).pending := .inl rfl
  have whole := reads_decodeStream (new charset policy) chunks last nothing
  refine ⟨whole.eq_decodeFrom, ?_, ?_⟩
  · -- Before the end, the bytes that are held are the last of those that were read.
    intro output after unfailing
    have some_ := reads_decodeChunks (new charset policy) chunks nothing
    rw [unfailing] at some_
    obtain ⟨count, suffix, waits, -⟩ := some_.held
    simp only [new, List.nil_append, Nat.zero_add, Nat.sub_zero] at count suffix waits
    exact ⟨count, suffix, waits, waits.length_lt⟩
  · intro output after unfailing
    rw [unfailing] at whole
    obtain ⟨count, -, -, ended⟩ := whole.held
    -- With nothing held at the end, every byte has been used.
    have none := ended rfl
    simp only [new, List.nil_append, Nat.zero_add, none, List.length_nil, Nat.add_zero] at count
    exact ⟨none, count⟩

end Converter

end UniText
